import Fence.Python

/-!
# Programs over collaborators, and their runs

`validate_jwt` calls collaborators whose behaviour it does not control: the request's header, the
key resolver, the authutils verifier, the blacklist and the view `require_jwt` wraps. A
`Prog Q R α` makes calls `q : Q`, each answered with an `R q` or an exception, and ends with an `α`
or a Python exception: the free monad over the calls, with `raise` and `try`/`except`.

A behaviour of the collaborators (`Oracle`) answers each call from the history of calls and
answers before it, so a deterministic, a stateful and an adversarial collaborator are all oracles,
and a statement over every behaviour quantifies over oracles. `Prog.run` runs a program against
one and returns its outcome with the history it leaves: the statements about what a run called
read that history.

`Prog.Within κ w p` says that the calls of `p`, classified by `κ`, come in the order of `w` and no
more often, and `Prog.Guard G E t p`, run after the history `t`, that each call satisfies `G` given
the calls and answers before it and each value returned satisfies `E` given the history it ends
with. Both are proved of a program by its structure, one lemma per combinator, and `run_within`
and `run_guard` read them off every run. A run depends on the behaviour only through the answers to
its own calls (`run_congr`).
-/

namespace Fence

/-- A program calling collaborators `Q`, each call `q` answered with an `R q` or an exception. -/
inductive Prog (Q : Type) (R : Q → Type) (α : Type) where
  | pure (a : α)
  | raise (e : PyExc)
  | call (q : Q) (k : Except PyExc (R q) → Prog Q R α)

/-- A call and its answer. -/
structure Event (Q : Type) (R : Q → Type) where
  call : Q
  answer : Except PyExc (R call)

/-- A behaviour of the collaborators: the answer to a call, given the calls answered before it. -/
def Oracle (Q : Type) (R : Q → Type) : Type := List (Event Q R) → (q : Q) → Except PyExc (R q)

namespace Prog

variable {Q : Type} {R : Q → Type} {α β : Type}

/-- Sequencing; an exception skips the rest. -/
def bind : Prog Q R α → (α → Prog Q R β) → Prog Q R β
  | pure a, f => f a
  | raise e, _ => raise e
  | call q k, f => call q fun r => (k r).bind f

instance : Monad (Prog Q R) where
  pure := pure
  bind := bind

/-- `try: p except BaseException as e: h(e)`, for every exception of `p` and of its calls. -/
def tryCatch : Prog Q R α → (PyExc → Prog Q R α) → Prog Q R α
  | pure a, _ => pure a
  | raise e, h => h e
  | call q k, h => call q fun r => (k r).tryCatch h

instance : MonadExceptOf PyExc (Prog Q R) where
  throw := raise
  tryCatch := tryCatch

/-- A call whose exception propagates. -/
def invoke (q : Q) : Prog Q R (R q) :=
  call q fun
    | .ok v => pure v
    | .error e => raise e

/-- Python code that calls nothing: its value, or the exception it raises. -/
def ofExcept : Except PyExc α → Prog Q R α
  | .ok a => pure a
  | .error e => raise e

@[simp] theorem pure_eq (a : α) : (Pure.pure a : Prog Q R α) = pure a := rfl

@[simp] theorem throw_eq (e : PyExc) : (throw e : Prog Q R α) = raise e := rfl

@[simp] theorem pure_bind (a : α) (f : α → Prog Q R β) : (pure a >>= f) = f a := rfl

@[simp] theorem raise_bind (e : PyExc) (f : α → Prog Q R β) : (raise e >>= f) = raise e := rfl

@[simp] theorem ofExcept_ok (a : α) : (ofExcept (.ok a) : Prog Q R α) = pure a := rfl

@[simp] theorem ofExcept_error (e : PyExc) : (ofExcept (.error e) : Prog Q R α) = raise e := rfl

/-! ### Runs -/

/-- Run `p` against `o` after the history `h`: its outcome, and `h` with its own calls appended. -/
def run (o : Oracle Q R) : Prog Q R α → List (Event Q R) → Except PyExc α × List (Event Q R)
  | pure a, h => (.ok a, h)
  | raise e, h => (.error e, h)
  | call q k, h => (k (o h q)).run o (h ++ [⟨q, o h q⟩])

variable (o : Oracle Q R)

@[simp] theorem run_pure (a : α) (h : List (Event Q R)) : (pure a : Prog Q R α).run o h = (.ok a, h) :=
  rfl

@[simp] theorem run_raise (e : PyExc) (h : List (Event Q R)) :
    (raise e : Prog Q R α).run o h = (.error e, h) :=
  rfl

@[simp] theorem run_ofExcept (x : Except PyExc α) (h : List (Event Q R)) :
    (ofExcept x : Prog Q R α).run o h = (x, h) := by
  cases x <;> rfl

@[simp] theorem run_invoke (q : Q) (h : List (Event Q R)) :
    (invoke q : Prog Q R (R q)).run o h = (o h q, h ++ [⟨q, o h q⟩]) := by
  simp only [invoke, run]
  cases o h q <;> rfl

theorem run_bind (p : Prog Q R α) (f : α → Prog Q R β) (h : List (Event Q R)) :
    (p >>= f).run o h =
      match p.run o h with
      | (.ok a, h') => (f a).run o h'
      | (.error e, h') => (.error e, h') := by
  induction p generalizing h with
  | pure a => rfl
  | raise e => rfl
  | call q k ih => exact ih (o h q) _

theorem run_tryCatch (p : Prog Q R α) (g : PyExc → Prog Q R α) (h : List (Event Q R)) :
    (p.tryCatch g).run o h =
      match p.run o h with
      | (.ok a, h') => (.ok a, h')
      | (.error e, h') => (g e).run o h' := by
  induction p generalizing h with
  | pure a => rfl
  | raise e => rfl
  | call q k ih => exact ih (o h q) _

theorem run_bind_of_ok {p : Prog Q R α} {h h' : List (Event Q R)} {a : α}
    (hp : p.run o h = (.ok a, h')) (f : α → Prog Q R β) : (p >>= f).run o h = (f a).run o h' := by
  rw [run_bind, hp]

/-- A run ends with a value only if both halves of a sequence do. -/
theorem run_bind_eq_ok {p : Prog Q R α} {f : α → Prog Q R β} {h h'' : List (Event Q R)} {b : β}
    (hr : (p >>= f).run o h = (.ok b, h'')) :
    ∃ a h', p.run o h = (.ok a, h') ∧ (f a).run o h' = (.ok b, h'') := by
  rw [run_bind] at hr
  split at hr
  · exact ⟨_, _, ‹_›, hr⟩
  · cases hr

/-- A sequence raises only if its first half does, or its second half does after the first
returned. -/
theorem run_bind_eq_error {p : Prog Q R α} {f : α → Prog Q R β} {h h'' : List (Event Q R)}
    {e : PyExc} (hr : (p >>= f).run o h = (.error e, h'')) :
    p.run o h = (.error e, h'') ∨ ∃ a h', p.run o h = (.ok a, h') ∧ (f a).run o h' = (.error e, h'') := by
  rw [run_bind] at hr
  split at hr
  · exact .inr ⟨_, _, ‹_›, hr⟩
  · rename_i hp
    simp only [Prod.mk.injEq, Except.error.injEq] at hr
    exact .inl (by rw [hp, hr.1, hr.2])

/-- A run of a sequence, whatever its outcome: the first half's run when it raises, the second
half's run after it when it returns. -/
theorem run_bind_cases (p : Prog Q R α) (f : α → Prog Q R β) (h : List (Event Q R)) :
    (∃ e h', p.run o h = (.error e, h') ∧ (p >>= f).run o h = (.error e, h')) ∨
    ∃ a h', p.run o h = (.ok a, h') ∧ (p >>= f).run o h = (f a).run o h' := by
  rw [run_bind]
  rcases p.run o h with ⟨e | a, h'⟩
  exacts [.inl ⟨e, h', rfl, rfl⟩, .inr ⟨a, h', rfl, rfl⟩]

/-- A run only appends to the history. -/
theorem run_extends (p : Prog Q R α) (h : List (Event Q R)) : ∃ t, (p.run o h).2 = h ++ t := by
  induction p generalizing h with
  | pure a => exact ⟨[], by simp [run]⟩
  | raise e => exact ⟨[], by simp [run]⟩
  | call q k ih =>
    obtain ⟨t, ht⟩ := ih (o h q) (h ++ [⟨q, o h q⟩])
    exact ⟨⟨q, o h q⟩ :: t, by simpa [run] using ht⟩

/-- A run of a call appends that call first. -/
theorem run_call_extends (q : Q) (k : Except PyExc (R q) → Prog Q R α) (h : List (Event Q R)) :
    ∃ t, ((call q k).run o h).2 = h ++ ⟨q, o h q⟩ :: t := by
  obtain ⟨t, ht⟩ := run_extends o (k (o h q)) (h ++ [⟨q, o h q⟩])
  exact ⟨t, by simpa [run] using ht⟩

/-- A fact about each event of `ev :: t` given the history before it: the fact about `ev`, and
the fact about each event of `t` after `ev`. -/
theorem forall_cons_split {P : List (Event Q R) → Event Q R → Prop} {h : List (Event Q R)}
    {ev : Event Q R} {t : List (Event Q R)} (hev : P h ev)
    (ht : ∀ t₁ ev' t₂, t = t₁ ++ ev' :: t₂ → P (h ++ [ev] ++ t₁) ev') :
    ∀ t₁ ev' t₂, ev :: t = t₁ ++ ev' :: t₂ → P (h ++ t₁) ev'
  | [], _, _, he => by
    obtain ⟨rfl, -⟩ := List.cons.inj he
    simpa using hev
  | _ :: t₁, ev', t₂, he => by
    obtain ⟨rfl, ht₁⟩ := List.cons.inj he
    simpa using ht t₁ ev' t₂ ht₁

/-- Each event a run appends holds the behaviour's answer to its call after the history before
it. -/
theorem run_answers (p : Prog Q R α) (h : List (Event Q R)) :
    ∃ t, (p.run o h).2 = h ++ t ∧ ∀ t₁ ev t₂, t = t₁ ++ ev :: t₂ → o (h ++ t₁) ev.call = ev.answer := by
  induction p generalizing h with
  | pure a => exact ⟨[], by simp [run], by simp⟩
  | raise e => exact ⟨[], by simp [run], by simp⟩
  | call q k ih =>
    obtain ⟨t, ht, hA⟩ := ih (o h q) (h ++ [⟨q, o h q⟩])
    exact ⟨⟨q, o h q⟩ :: t, by simpa [run] using ht,
      forall_cons_split (P := fun h ev => o h ev.call = ev.answer) rfl hA⟩

/-- A run depends on the behaviour of the collaborators only through the answers to its own
calls: a behaviour giving those answers after the same histories gives the same run. -/
theorem run_congr {o' : Oracle Q R} {p : Prog Q R α} {h : List (Event Q R)}
    (hag : ∀ t₁ ev t₂, (p.run o h).2 = h ++ t₁ ++ ev :: t₂ → o' (h ++ t₁) ev.call = ev.answer) :
    p.run o' h = p.run o h := by
  induction p generalizing h with
  | pure a => rfl
  | raise e => rfl
  | call q k ih =>
    obtain ⟨t, ht⟩ := run_extends o (k (o h q)) (h ++ [⟨q, o h q⟩])
    have hq : o' h q = o h q := by simpa using hag [] ⟨q, o h q⟩ t (by simpa [run] using ht)
    simp only [run]
    rw [hq]
    exact ih (o h q) fun t₁ ev t₂ he => by
      simpa using hag (⟨q, o h q⟩ :: t₁) ev t₂ (by simpa [run] using he)

/-! ### In which order a program calls -/

/-- The calls of every run of `p`, classified by `κ`, form a sublist of `w`: at most the calls `w`
lists, in its order. -/
def Within {K : Type} (κ : Q → K) : List K → Prog Q R α → Prop
  | _, pure _ => True
  | _, raise _ => True
  | w, call q k => ∃ w', κ q :: w' <:+ w ∧ ∀ r, Within κ w' (k r)

variable {K : Type} {κ : Q → K}

@[simp] theorem within_pure (w : List K) (a : α) : (pure a : Prog Q R α).Within κ w := trivial

@[simp] theorem within_raise (w : List K) (e : PyExc) : (raise e : Prog Q R α).Within κ w := trivial

@[simp] theorem within_ofExcept (w : List K) (x : Except PyExc α) :
    (ofExcept x : Prog Q R α).Within κ w := by
  cases x <;> trivial

theorem within_invoke (q : Q) : (invoke q : Prog Q R (R q)).Within κ [κ q] :=
  ⟨[], List.suffix_refl _, fun r => by cases r <;> trivial⟩

theorem within_mono {p : Prog Q R α} {w w' : List K} (hp : p.Within κ w) (hw : w <:+ w') :
    p.Within κ w' := by
  cases p with
  | pure a => trivial
  | raise e => trivial
  | call q k => exact hp.imp fun _ h => ⟨h.1.trans hw, h.2⟩

theorem within_bind {p : Prog Q R α} {f : α → Prog Q R β} {w₁ w₂ : List K} (hp : p.Within κ w₁)
    (hf : ∀ a, (f a).Within κ w₂) : (p >>= f).Within κ (w₁ ++ w₂) := by
  induction p generalizing w₁ with
  | pure a => exact within_mono (hf a) (List.suffix_append _ _)
  | raise e => trivial
  | call q k ih =>
    obtain ⟨w', ⟨u, rfl⟩, hk⟩ := hp
    exact ⟨w' ++ w₂, ⟨u, by simp⟩, fun r => ih r (hk r)⟩

/-- `within_bind` when the first half calls nothing. -/
theorem within_nil_bind {p : Prog Q R α} {f : α → Prog Q R β} {w : List K} (hp : p.Within κ [])
    (hf : ∀ a, (f a).Within κ w) : (p >>= f).Within κ w :=
  within_bind hp hf

theorem within_tryCatch {p : Prog Q R α} {g : PyExc → Prog Q R α} {w₁ w₂ : List K}
    (hp : p.Within κ w₁) (hg : ∀ e, (g e).Within κ w₂) : (p.tryCatch g).Within κ (w₁ ++ w₂) := by
  induction p generalizing w₁ with
  | pure a => trivial
  | raise e => exact within_mono (hg e) (List.suffix_append _ _)
  | call q k ih =>
    obtain ⟨w', ⟨u, rfl⟩, hk⟩ := hp
    exact ⟨w' ++ w₂, ⟨u, by simp⟩, fun r => ih r (hk r)⟩

/-- The calls a run of a program `Within κ w` appends are, classified by `κ`, a sublist of `w`. -/
theorem run_within {p : Prog Q R α} {w : List K} (hp : p.Within κ w) (h : List (Event Q R)) :
    ∃ t, (p.run o h).2 = h ++ t ∧ List.Sublist (t.map fun ev => κ ev.call) w := by
  induction p generalizing w h with
  | pure a => exact ⟨[], by simp [run], List.nil_sublist _⟩
  | raise e => exact ⟨[], by simp [run], List.nil_sublist _⟩
  | call q k ih =>
    obtain ⟨w', hs, hk⟩ := hp
    obtain ⟨t, ht, hsub⟩ := ih (o h q) (hk _) (h ++ [⟨q, o h q⟩])
    exact ⟨⟨q, o h q⟩ :: t, by simpa [run] using ht, (hsub.cons₂ _).trans hs.sublist⟩

/-! ### What a program calls, given the calls before it -/

/-- `p.Guard G E t`: run after the history `t`, every call `p` makes satisfies `G` given the
history before it, and every value it returns satisfies `E` given the history it ends with. -/
def Guard (G : List (Event Q R) → Q → Prop) (E : List (Event Q R) → α → Prop) :
    List (Event Q R) → Prog Q R α → Prop
  | t, pure a => E t a
  | _, raise _ => True
  | t, call q k => G t q ∧ ∀ r, Guard G E (t ++ [⟨q, r⟩]) (k r)

variable {G : List (Event Q R) → Q → Prop} {E : List (Event Q R) → α → Prop}
  {E' : List (Event Q R) → β → Prop} {t : List (Event Q R)}

theorem guard_pure {a : α} (ha : E t a) : (pure a : Prog Q R α).Guard G E t := ha

theorem guard_ofExcept {x : Except PyExc α} (hx : ∀ a, x = .ok a → E t a) :
    (ofExcept x : Prog Q R α).Guard G E t := by
  cases x with
  | ok a => exact hx a rfl
  | error e => trivial

/-- Code that calls nothing returns its value with the history it started with. -/
theorem guard_ofExcept_eq {x : Except PyExc α} :
    (ofExcept x : Prog Q R α).Guard G (fun t' a => t' = t ∧ x = .ok a) t :=
  guard_ofExcept fun _ h => ⟨rfl, h⟩

theorem guard_invoke {q : Q} {E : List (Event Q R) → R q → Prop} (hq : G t q)
    (hP : ∀ v, E (t ++ [⟨q, .ok v⟩]) v) : (invoke q : Prog Q R (R q)).Guard G E t :=
  ⟨hq, fun r => by cases r <;> first | trivial | exact hP _⟩

theorem guard_bind {p : Prog Q R α} {f : α → Prog Q R β} (hp : p.Guard G E t)
    (hf : ∀ t' a, E t' a → (f a).Guard G E' t') : (p >>= f).Guard G E' t := by
  induction p generalizing t with
  | pure a => exact hf t a hp
  | raise e => trivial
  | call q k ih => exact ⟨hp.1, fun r => ih r (hp.2 r)⟩

theorem guard_tryCatch {p : Prog Q R α} {g : PyExc → Prog Q R α} (hp : p.Guard G E t)
    (hg : ∀ t' e, (g e).Guard G E t') : (p.tryCatch g).Guard G E t := by
  induction p generalizing t with
  | pure a => exact hp
  | raise e => exact hg t e
  | call q k ih => exact ⟨hp.1, fun r => ih r (hp.2 r)⟩

/-- A program that calls nothing returns with the history it started with. -/
theorem guard_of_within_nil {K : Type} {κ : Q → K} {p : Prog Q R α} (hp : p.Within κ []) :
    p.Guard G (fun t' _ => t' = t) t := by
  cases p with
  | pure a => rfl
  | raise e => trivial
  | call q k =>
    obtain ⟨_, hs, -⟩ := hp
    simp at hs

/-- In a run after `t` of a program `Guard G E t`, each call it appends satisfies `G` given the
history before it, and a returned value satisfies `E` given the history the run ends with. -/
theorem run_guard {p : Prog Q R α} (hp : p.Guard G E t) :
    ∃ t', (p.run o t).2 = t ++ t' ∧ (∀ t₁ ev t₂, t' = t₁ ++ ev :: t₂ → G (t ++ t₁) ev.call) ∧
      ∀ a, (p.run o t).1 = .ok a → E (p.run o t).2 a := by
  induction p generalizing t with
  | pure a => exact ⟨[], by simp [run], by simp, fun _ ha => by cases ha; exact hp⟩
  | raise e => exact ⟨[], by simp [run], by simp, fun _ ha => by cases ha⟩
  | call q k ih =>
    obtain ⟨t', ht, hG, hP⟩ := ih (o t q) (hp.2 _)
    exact ⟨⟨q, o t q⟩ :: t', by simpa [run] using ht,
      forall_cons_split (P := fun t ev => G t ev.call) hp.1 hG, hP⟩

/-- `run_guard` for a run from the empty history, call by call: the `i`-th call satisfies `G`
given the `i` calls before it. -/
theorem run_guard_get {p : Prog Q R α} (hp : p.Guard G E []) (i : Fin (p.run o []).2.length) :
    G ((p.run o []).2.take i) ((p.run o []).2.get i).call := by
  obtain ⟨t', ht, hG, -⟩ := run_guard o hp
  rw [List.nil_append] at ht
  refine hG _ _ ((p.run o []).2.drop (i + 1)) ?_
  rw [← ht, List.get_eq_getElem, ← List.drop_eq_getElem_cons, List.take_append_drop]

end Prog

end Fence
