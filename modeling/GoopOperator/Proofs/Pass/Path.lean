import GoopOperator.Pass.Stage

/-!
# Paths through a pass

What a pass has been answered so far is its `History`; `Pass.Path` leads from a pass to what is
left of it. `Pass.Follows` says of a pass that whatever it is answered, it asks only for what a
rule permits after its history, and that it ends as a postcondition says. A pass that follows a
rule follows it along every path (`Path.follows`), so a rule that is shown once for a whole pass
holds of it wherever it stands, in whatever surroundings it runs.

`Pass.Everywhere` says more at each place: it also sees what the pass goes on with after an answer.

The rules of the combinators (`follows_bind`, `follows_attempt`) let this be shown stage by stage
(`follows_stages`), and what is left of a pass after a stage is found from the history of the stage
(`Path.rest`, `path_next`).
-/

namespace GoopOperator

/-- Something that a pass has asked for, with the answer. -/
structure Event where
  /-- What was asked for. -/
  effect : Effect
  /-- The answer. -/
  answer : effect.Answer

/-- What a pass has been answered, the last first. -/
abbrev History := List Event

/-- The job at a key has been read. -/
def HasRead (k : ObjectKey) (h : History) (g : Goop) : Prop :=
  (⟨.call (.get k), Except.ok g⟩ : Event) ∈ h

/-- A read that was made stays made. -/
theorem HasRead.append {k : ObjectKey} {h : History} {g : Goop} (hg : HasRead k h g) (t : History) :
    HasRead k (t ++ h) g := List.mem_append_right t hg

namespace Pass

/-! ## Paths -/

/-- A history leads from a pass to what is left of it. -/
inductive Path (p : Pass α) : History → Pass α → Prop where
  /-- Nothing has been asked for. -/
  | refl : Path p [] p
  /-- One more answer. -/
  | step {h : History} {e : Effect} {next : e.Answer → Pass α} (hp : Path p h (perform e next))
    (a : e.Answer) : Path p (⟨e, a⟩ :: h) (next a)

/-- Paths one after the other are a path. -/
theorem Path.trans {p q r : Pass α} {h t : History} (hp : Path p h q) (hq : Path q t r) :
    Path p (t ++ h) r := by
  induction hq with
  | refl => exact hp
  | step _ a ih => exact .step ih a

/-- The first answer of a path. -/
theorem Path.cons {e : Effect} {next : e.Answer → Pass α} {a : e.Answer} {t : History} {q : Pass α}
    (hq : Path (next a) t q) : Path (perform e next) (t ++ [⟨e, a⟩]) q :=
  Path.trans (.step .refl a) hq

/-- A pass that has ended goes nowhere. -/
theorem path_done {r : Except PassError α} {h : History} {q : Pass α} (hp : Path (done r) h q) :
    h = [] ∧ q = done r := by
  induction hp with
  | refl => exact ⟨rfl, rfl⟩
  | step _ _ ih => cases ih.2

/-- The same history leads to the same rest. -/
theorem Path.unique {p q q' : Pass α} {h : History} (hp : Path p h q) (hp' : Path p h q') :
    q = q' := by
  induction hp generalizing q' with
  | refl =>
    cases hp'
    rfl
  | step _ a ih =>
    cases hp' with
    | step hp' a =>
      have hq := ih hp'
      cases hq
      rfl

/-- What comes after a history that leads to a pass is a path from there. -/
theorem Path.rest {p q r : Pass α} {t h : History} (hp : Path p (t ++ h) q) (hr : Path p h r) :
    Path r t q := by
  induction t generalizing q with
  | nil =>
    obtain rfl := hp.unique hr
    exact .refl
  | cons e t ih =>
    cases hp with
    | step hp a => exact .step (ih hp) a

/-- A path through the first of two passes is one through both. -/
theorem Path.bind {p q : Pass α} {h : History} (hp : Path p h q) (f : α → Pass β) :
    Path (p >>= f) h (q >>= f) := by
  induction hp with
  | refl => exact .refl
  | step _ a ih => exact .step ih a

/-- A path through a pass is one through the pass that looks at its failure. -/
theorem Path.attempt {p q : Pass α} {h : History} (hp : Path p h q) :
    Path p.attempt h q.attempt := by
  induction hp with
  | refl => exact .refl
  | step _ a ih => exact .step ih a

/-- An answer within a history was given to what the pass had asked for then. -/
theorem Path.split {p q : Pass α} {t h : History} {x : Event} (hp : Path p (t ++ x :: h) q) :
    ∃ next, Path p h (perform x.effect next) ∧ Path (next x.answer) t q := by
  induction t generalizing q with
  | nil =>
    cases hp with
    | step hp a => exact ⟨_, hp, .refl⟩
  | cons y t ih =>
    cases hp with
    | step hp a =>
      obtain ⟨next, hbefore, hafter⟩ := ih hp
      exact ⟨next, hbefore, .step hafter a⟩

/-! ## What holds wherever a pass asks -/

/-- Wherever the pass asks for something, `P` holds of what it has been answered, of what it asks
for, and of what it goes on with. -/
def Everywhere (P : History → (e : Effect) → (e.Answer → Pass α) → Prop) : Pass α → History → Prop
  | done _, _ => True
  | perform e next, h => P h e next ∧ ∀ a, Everywhere P (next a) (⟨e, a⟩ :: h)

/-- What holds wherever a pass asks holds wherever what is left of it asks. -/
theorem Path.everywhere {P : History → (e : Effect) → (e.Answer → Pass α) → Prop} {p q : Pass α}
    {h t : History} (hp : Path p t q) (hall : Everywhere P p h) : Everywhere P q (t ++ h) := by
  induction hp with
  | refl => exact hall
  | step _ a ih => exact ih.2 a

/-! ## Rules -/

/-- Whatever it is answered, the pass asks only for what the rule permits after its history, and
ends as `post` says. -/
def Follows (rule : History → Effect → Prop) (post : History → Except PassError α → Prop) :
    Pass α → History → Prop
  | done r, h => post h r
  | perform e next, h => rule h e ∧ ∀ a, Follows rule post (next a) (⟨e, a⟩ :: h)

variable {rule : History → Effect → Prop}

/-- A pass follows a rule along every path. -/
theorem Path.follows {p q : Pass α} {post : History → Except PassError α → Prop} {h t : History}
    (hp : Path p t q) (hf : Follows rule post p h) : Follows rule post q (t ++ h) := by
  induction hp with
  | refl => exact hf
  | step _ a ih => exact ih.2 a

/-- Weakening the postcondition. -/
theorem Follows.mono {p : Pass α} {post post' : History → Except PassError α → Prop} {h : History}
    (hf : Follows rule post p h) (himp : ∀ t r, post t r → post' t r) :
    Follows rule post' p h := by
  induction p generalizing h with
  | done r => exact himp h r hf
  | perform e next ih => exact ⟨hf.1, fun a => ih a (hf.2 a)⟩

/-- What is shown of the end of a pass may use that a path leads there. -/
theorem Follows.reached {p : Pass α} {post : History → Except PassError α → Prop} {h : History}
    (hf : Follows rule post p h) :
    Follows rule (fun t r => post t r ∧ ∃ u, t = u ++ h ∧ Path p u (done r)) p h := by
  induction p generalizing h with
  | done r => exact ⟨hf, [], rfl, .refl⟩
  | perform e next ih =>
    refine ⟨hf.1, fun a => (ih a (hf.2 a)).mono fun t r ht => ?_⟩
    obtain ⟨hpost, u, rfl, hu⟩ := ht
    exact ⟨hpost, u ++ [⟨e, a⟩], by simp, .cons hu⟩

/-- A pass that follows a rule of its own, after a history in which another rule permits as much. -/
theorem Follows.shift {own : History → Effect → Prop} {p : Pass α}
    {post own' : History → Except PassError α → Prop} {t h : History} (hf : Follows own own' p t)
    (hrule : ∀ t e, own t e → rule (t ++ h) e)
    (hpost : ∀ u r, Path p u (done r) → post (u ++ t ++ h) r) : Follows rule post p (t ++ h) := by
  induction p generalizing t with
  | done r => exact hpost [] r .refl
  | perform e next ih =>
    refine ⟨hrule _ _ hf.1, fun a => ih a (hf.2 a) fun u r hu => ?_⟩
    have hend := hpost (u ++ [⟨e, a⟩]) r (.cons hu)
    rw [List.append_assoc u [⟨e, a⟩] t] at hend
    exact hend

/-- A call of the store. -/
theorem follows_call {c : StoreCall} {post : History → Except PassError c.Answer → Prop}
    {h : History} :
    Follows rule post (call c) h ↔ rule h (.call c) ∧ ∀ a, post (⟨.call c, a⟩ :: h) a := Iff.rfl

/-- A look at the clock. -/
theorem follows_clock {post : History → Except PassError Timestamp → Prop} {h : History} :
    Follows rule post clock h ↔ rule h .clock ∧ ∀ t, post (⟨.clock, t⟩ :: h) (.ok t) := Iff.rfl

/-- Two passes one after the other. -/
theorem follows_bind {p : Pass α} {f : α → Pass β} {post : History → Except PassError β → Prop}
    {h : History} :
    Follows rule post (p >>= f) h ↔
      Follows rule (fun t r =>
        match r with
        | .ok a => Follows rule post (f a) t
        | .error e => post t (.error e)) p h := by
  induction p generalizing h with
  | done r => cases r <;> exact Iff.rfl
  | perform e next ih => exact and_congr Iff.rfl (forall_congr' fun a => ih a)

/-- A pass whose failure is looked at. -/
theorem follows_attempt {p : Pass α} {post : History → Except PassError (Except PassError α) → Prop}
    {h : History} :
    Follows rule post p.attempt h ↔ Follows rule (fun t r => post t (.ok r)) p h := by
  induction p generalizing h with
  | done r => exact Iff.rfl
  | perform e next ih => exact and_congr Iff.rfl (forall_congr' fun a => ih a)

end Pass

/-! ## Chains of stages -/

/-- A path through the first stage of a chain leads to the other stages. -/
theorem path_next {st : Stage} {rest : List Stage} {cx : Context} {g g' : Goop} {h : History}
    (hp : Pass.Path (st.handle cx g) h (.done (.ok (.next g')))) :
    Pass.Path (Chain.run ⟨st :: rest⟩ cx g) h (Chain.run ⟨rest⟩ cx g') := by
  rw [Chain.run_cons]
  exact hp.bind _

/-- A rule of a chain: its first stage follows it, and so do the others from where that one leaves
off. -/
theorem follows_stages {rule : History → Effect → Prop} {st : Stage} {rest : List Stage}
    {cx : Context} {g : Goop} {h : History} {Q : History → Goop → Prop}
    (hst : Pass.Follows rule (fun t r => ∀ g', r = .ok (.next g') → Q t g') (st.handle cx g) h)
    (hrest : ∀ u g', Pass.Path (st.handle cx g) u (.done (.ok (.next g'))) → Q (u ++ h) g' →
      Pass.Follows rule (fun _ _ => True) (Chain.run ⟨rest⟩ cx g') (u ++ h)) :
    Pass.Follows rule (fun _ _ => True) (Chain.run ⟨st :: rest⟩ cx g) h := by
  rw [Chain.run_cons, Pass.follows_bind]
  refine hst.reached.mono fun t r ht => ?_
  obtain ⟨hpost, u, rfl, hu⟩ := ht
  cases r with
  | error e => trivial
  | ok decision =>
    cases decision with
    | next g' => exact hrest u g' hu (hpost g' rfl)
    | stop requeue => trivial

end GoopOperator
