import Mathlib.Data.List.Basic
import Mathlib.Tactic.Cases

/-!
# Programs that call their environment

A program is a tree of calls: it either returns or makes a call and continues with
the reply. What a client of a remote service does is exactly such a tree, and the
tree says nothing about who answers. Three readings are used later:

* `Trace p t a` — **all replies at once**: `t` is a complete record of the calls `p`
  made with the replies it got, ending in the result `a`. Quantifying over `t` is
  quantifying over every assignment of replies. `Path p t q` is the same for a record
  that stops half way.
* `wp S post p g` — a **ghost specification** carried along the tree: every call is
  licensed by the ghost state, every expected reply moves it on.
* `Exec act p w t a w'` — the same tree against a **world** that answers.

The calls `C` and the reply family `R` stay abstract throughout.
-/

universe u v w x y

/-- A program over calls `C` answered in the family `R`. -/
inductive Prog (C : Type u) (R : C → Type v) (α : Type w) : Type (max u v w) where
  /-- return a value -/
  | ret : α → Prog C R α
  /-- make a call and continue with its reply -/
  | call : (c : C) → (R c → Prog C R α) → Prog C R α

namespace Prog

variable {C : Type u} {R : C → Type v} {α β : Type w}

/-- Graft a continuation onto every `ret` leaf. The calls of the first program stay where they
are, so sequencing never reorders or repeats a call. -/
protected def bind : Prog C R α → (α → Prog C R β) → Prog C R β
  | ret a, f => f a
  | call c k, f => call c fun r => (k r).bind f

instance : Monad (Prog C R) where
  pure := ret
  bind := Prog.bind

@[simp] theorem pure_eq (a : α) : (pure a : Prog C R α) = ret a := rfl

@[simp] theorem ret_bind (a : α) (f : α → Prog C R β) : (ret a >>= f) = f a := rfl

@[simp] theorem call_bind (c : C) (k : R c → Prog C R α) (f : α → Prog C R β) :
    (call c k >>= f) = call c fun r => k r >>= f := rfl

theorem bind_assoc {γ : Type w} (p : Prog C R α) (f : α → Prog C R β) (g : β → Prog C R γ) :
    p >>= f >>= g = p >>= fun a => f a >>= g := by
  induction p with
  | ret a => rfl
  | call c k ih => exact congrArg (call c) (funext ih)

end Prog

/-! ## Traces

A trace is a closed record: it names every call and every reply, and the result. Two facts
carry all later proofs about whole runs, namely that the trace of a call starts with that call
(`trace_call`) and that the trace of a sequence is cut in two (`trace_bind`). Both are stated
as equivalences, so that a `simp only` with them computes all runs of a program. -/

/-- A call together with the reply it got. The reply type depends on the call, so an event
cannot pair a call with the reply of another one. -/
abbrev Event (C : Type u) (R : C → Type v) : Type (max u v) := (c : C) × R c

namespace Prog

variable {C : Type u} {R : C → Type v} {α β : Type w}

/-- `Trace p t a`: answered as recorded in `t`, the program `p` makes exactly the
calls of `t`, in that order, and returns `a`. -/
inductive Trace : Prog C R α → List (Event C R) → α → Prop where
  /-- a returned value makes no call -/
  | ret (a : α) : Trace (Prog.ret a) [] a
  /-- one call, then the trace of the continuation -/
  | call {c : C} {k : R c → Prog C R α} (r : R c) {t : List (Event C R)} {a : α} :
      Trace (k r) t a → Trace (Prog.call c k) (⟨c, r⟩ :: t) a

@[simp] theorem trace_ret {a b : α} {t : List (Event C R)} :
    Trace (ret a : Prog C R α) t b ↔ t = [] ∧ b = a := by
  refine ⟨?_, ?_⟩
  · intro h
    cases h
    exact ⟨rfl, rfl⟩
  · rintro ⟨rfl, rfl⟩
    exact .ret _

@[simp] theorem trace_call {c : C} {k : R c → Prog C R α} {t : List (Event C R)} {a : α} :
    Trace (call c k) t a ↔ ∃ (r : R c) (t' : List (Event C R)),
      t = ⟨c, r⟩ :: t' ∧ Trace (k r) t' a := by
  refine ⟨?_, ?_⟩
  · intro h
    cases h with
    | call r h => exact ⟨r, _, rfl, h⟩
  · rintro ⟨r, t', rfl, h⟩
    exact .call r h

/-- **The trace of a sequence is cut where the first program returns.** What the second
program does depends on the first one only through the value `a` it returned, and both halves
are complete traces of their own. -/
theorem trace_bind {p : Prog C R α} {f : α → Prog C R β} :
    ∀ {t : List (Event C R)} {b : β}, Trace (p >>= f) t b ↔
      ∃ t₁ t₂ a, t = t₁ ++ t₂ ∧ Trace p t₁ a ∧ Trace (f a) t₂ b := by
  induction p with
  | ret a => simp
  | call c k ih =>
    intro t b
    simp only [call_bind, trace_call, ih]
    refine ⟨?_, ?_⟩
    · rintro ⟨r, t', rfl, t₁, t₂, a, rfl, h₁, h₂⟩
      exact ⟨⟨c, r⟩ :: t₁, t₂, a, rfl, ⟨r, t₁, rfl, h₁⟩, h₂⟩
    · rintro ⟨t₁, t₂, a, rfl, ⟨r, t', rfl, h₁⟩, h₂⟩
      exact ⟨r, t' ++ t₂, rfl, t', t₂, a, rfl, h₁, h₂⟩

/-- Returning something else makes no call: post-processing a result with a pure function
changes the result of a trace and none of its events. -/
theorem trace_bind_pure {p : Prog C R α} {f : α → β} {t : List (Event C R)} {b : β} :
    Trace (p >>= fun a => (pure (f a) : Prog C R β)) t b ↔ ∃ a, Trace p t a ∧ b = f a := by
  refine ⟨?_, ?_⟩
  · intro h
    obtain ⟨t₁, t₂, a, rfl, h₁, h₂⟩ := trace_bind.mp h
    obtain ⟨rfl, rfl⟩ := trace_ret.mp h₂
    rw [List.append_nil]
    exact ⟨a, h₁, rfl⟩
  · rintro ⟨a, h, rfl⟩
    exact trace_bind.mpr ⟨t, [], a, (List.append_nil t).symm, h, .ret _⟩

/-- `Path p t q`: answered as recorded in `t`, the program `p` gets as far as `q`. Paths are
what safety properties of a running program are about, since a program that is waiting for a
reply has no trace yet, and one that loops for ever never will. -/
inductive Path : Prog C R α → List (Event C R) → Prog C R α → Prop where
  /-- nothing was answered yet -/
  | nil (p : Prog C R α) : Path p [] p
  /-- one call, then the path of the continuation -/
  | call {c : C} {k : R c → Prog C R α} (r : R c) {t : List (Event C R)} {q : Prog C R α} :
      Path (k r) t q → Path (Prog.call c k) (⟨c, r⟩ :: t) q

/-- A path that ends in a result is a trace, so what is shown for every path holds for every
complete run. -/
theorem Path.trace {p : Prog C R α} {t : List (Event C R)} {a : α} (h : Path p t (ret a)) :
    Trace p t a := by
  generalize hq : (ret a : Prog C R α) = q at h
  induction h with
  | nil p =>
    subst hq
    exact .ret a
  | call r _ ih => exact .call r (ih hq)

/-- The converse: a trace is a path all the way to its result. -/
theorem Trace.path {p : Prog C R α} {t : List (Event C R)} {a : α} (h : Trace p t a) :
    Path p t (Prog.ret a) := by
  induction h with
  | ret a => exact .nil _
  | call r _ ih => exact .call r ih

@[simp] theorem path_nil {p q : Prog C R α} : Path p [] q ↔ q = p := by
  refine ⟨?_, ?_⟩
  · intro h
    generalize ht : ([] : List (Event C R)) = t at h
    cases h with
    | nil p => rfl
    | call r h => cases ht
  · rintro rfl
    exact .nil _

@[simp] theorem path_cons {p q : Prog C R α} {e : Event C R} {t : List (Event C R)} :
    Path p (e :: t) q ↔ ∃ k, p = call e.1 k ∧ Path (k e.2) t q := by
  refine ⟨?_, ?_⟩
  · intro h
    generalize ht : e :: t = t' at h
    cases h with
    | nil p => cases ht
    | call r h =>
      cases ht
      exact ⟨_, rfl, h⟩
  · rintro ⟨k, rfl, h⟩
    exact .call e.2 h

/-- **The last step of a path**: the program had come to a call, and the last event is that
call with its reply. Invariants of growing records are proved by this end, whereas `path_cons`
opens a path at its beginning. -/
theorem path_concat {p q : Prog C R α} {t : List (Event C R)} {e : Event C R} :
    Path p (t ++ [e]) q ↔ ∃ k, Path p t (call e.1 k) ∧ q = k e.2 := by
  induction t generalizing p with
  | nil =>
    rw [List.nil_append, path_cons]
    refine ⟨?_, ?_⟩
    · rintro ⟨k, rfl, h⟩
      exact ⟨k, .nil _, path_nil.mp h⟩
    · rintro ⟨k, h, rfl⟩
      exact ⟨k, (path_nil.mp h).symm, .nil _⟩
  | cons e' t ih =>
    rw [List.cons_append, path_cons]
    refine ⟨?_, ?_⟩
    · rintro ⟨k', rfl, h⟩
      obtain ⟨k, hk, rfl⟩ := ih.mp h
      exact ⟨k, .call e'.2 hk, rfl⟩
    · rintro ⟨k, h, rfl⟩
      obtain ⟨k', rfl, htail⟩ := path_cons.mp h
      exact ⟨k', rfl, ih.mpr ⟨k, htail, rfl⟩⟩

end Prog

/-! ## Ghost specifications

A ghost state is what a proof remembers about the calls made so far. A specification says
which calls the memory allows, which replies it has to reckon with, and what it remembers
after a reply; `wp` then asks a program to keep to it. The ghost state is no part of the
program and may be any type: a phase of a protocol, a set of guids, the whole history. -/

/-- A ghost specification of the calls: which calls a ghost state licenses, which replies are
to be expected there, and how a reply moves the ghost state. Replies outside `ans` are not a
fault of the program: nothing is claimed about what it does after one. -/
structure Spec (C : Type u) (R : C → Type v) (γ : Type x) where
  /-- the call is licensed -/
  pre : γ → C → Prop
  /-- the reply is among those to be expected -/
  ans : γ → (c : C) → R c → Prop
  /-- the ghost state after the reply -/
  next : γ → (c : C) → R c → γ

namespace Spec

variable {C : Type u} {R : C → Type v} {γ : Type x}

/-- The ghost state after a sequence of events. It depends on the events only, not on the
program that made them, so two programs can be compared by the state they leave. -/
def after (S : Spec C R γ) (g : γ) (t : List (Event C R)) : γ :=
  t.foldl (fun g e => S.next g e.1 e.2) g

@[simp] theorem after_nil (S : Spec C R γ) (g : γ) : S.after g [] = g := rfl

@[simp] theorem after_cons (S : Spec C R γ) (g : γ) (e : Event C R) (t : List (Event C R)) :
    S.after g (e :: t) = S.after (S.next g e.1 e.2) t := rfl

@[simp] theorem after_append (S : Spec C R γ) (g : γ) (t₁ t₂ : List (Event C R)) :
    S.after g (t₁ ++ t₂) = S.after (S.after g t₁) t₂ := by
  simp [after]

/-- What every event keeps is kept by any sequence of events. This is the invariant rule for
worlds that are described by `Spec.next` alone. -/
theorem after_keeps {S : Spec C R γ} {I : γ → Prop} (hI : ∀ g c r, I g → I (S.next g c r))
    (t : List (Event C R)) : ∀ {g}, I g → I (S.after g t) := by
  induction t with
  | nil => exact fun hg => hg
  | cons e t ih => exact fun hg => ih (hI _ _ _ hg)

/-- What no event changes is the same after any sequence of events, in the form of an equation
to rewrite with. -/
theorem after_unchanged {δ : Type y} (S : Spec C R γ) (f : γ → δ)
    (hf : ∀ g c r, f (S.next g c r) = f g) (t : List (Event C R)) :
    ∀ g, f (S.after g t) = f g := by
  induction t with
  | nil => exact fun _ => rfl
  | cons e t ih =>
    intro g
    rw [after_cons, ih, hf]

/-- Every reply of the trace is one the specification expects, in the ghost state reached by
the events before it. It is the only assumption about the environment that `wp_sound` makes. -/
def Answered (S : Spec C R γ) : γ → List (Event C R) → Prop
  | _, [] => True
  | g, e :: t => S.ans g e.1 e.2 ∧ S.Answered (S.next g e.1 e.2) t

@[simp] theorem answered_append (S : Spec C R γ) (g : γ) (t₁ t₂ : List (Event C R)) :
    S.Answered g (t₁ ++ t₂) ↔ S.Answered g t₁ ∧ S.Answered (S.after g t₁) t₂ := by
  induction t₁ generalizing g with
  | nil => simp [Answered]
  | cons e t₁ ih =>
    rw [List.cons_append, Answered, Answered, ih, after_cons, and_assoc]

/-- Replies that are expected in any ghost state make an answered trace. A concrete trace is
checked by it event by event. -/
theorem answered_of_mem {S : Spec C R γ} {t : List (Event C R)}
    (hans : ∀ e ∈ t, ∀ g, S.ans g e.1 e.2) : ∀ g, S.Answered g t := by
  induction t with
  | nil => exact fun _ => trivial
  | cons e t ih =>
    exact fun g => ⟨hans e (List.mem_cons_self ..) g,
      ih (fun e' he' => hans e' (List.mem_cons_of_mem _ he')) _⟩

/-- The specification whose ghost state is the history of events itself. It licenses a call by
everything that happened before it, which is how a statement such as "a container is only
deleted after its completion was reported" is put. -/
def history (pre : List (Event C R) → C → Prop) (ans : (c : C) → R c → Prop) :
    Spec C R (List (Event C R)) where
  pre := pre
  ans _ c r := ans c r
  next h c r := h ++ [⟨c, r⟩]

@[simp] theorem after_history {pre : List (Event C R) → C → Prop}
    {ans : (c : C) → R c → Prop} (h t : List (Event C R)) :
    (history pre ans).after h t = h ++ t := by
  induction t generalizing h with
  | nil => simp
  | cons e t ih =>
    rw [after_cons, ih]
    simp [history]

@[simp] theorem answered_history {pre : List (Event C R) → C → Prop}
    {ans : (c : C) → R c → Prop} (h t : List (Event C R)) :
    (history pre ans).Answered h t ↔ ∀ e ∈ t, ans e.1 e.2 := by
  induction t generalizing h with
  | nil => simp [Answered]
  | cons e t ih =>
    rw [Answered, ih, List.forall_mem_cons]
    exact Iff.rfl

end Spec

namespace Prog

variable {C : Type u} {R : C → Type v} {α β : Type w} {γ : Type x}

/-- The weakest precondition of `p`: from ghost state `g`, and as long as replies are expected
ones, every call is licensed and the result satisfies `post`. It is defined by recursion on
the tree, so that `refine ⟨_, fun r hr => _⟩` steps through a program call by call. -/
def wp (S : Spec C R γ) (post : γ → α → Prop) : Prog C R α → γ → Prop
  | ret a, g => post g a
  | call c k, g => S.pre g c ∧ ∀ r, S.ans g c r → (k r).wp S post (S.next g c r)

variable {S : Spec C R γ}

@[simp] theorem wp_ret {post : γ → α → Prop} {a : α} {g : γ} :
    (ret a : Prog C R α).wp S post g ↔ post g a := Iff.rfl

@[simp] theorem wp_call {post : γ → α → Prop} {c : C} {k : R c → Prog C R α} {g : γ} :
    (call c k).wp S post g ↔
      S.pre g c ∧ ∀ r, S.ans g c r → (k r).wp S post (S.next g c r) := Iff.rfl

/-- **Sequencing**: to show a sequence, show the first program with the second one's
precondition for its postcondition. Stated as an equivalence, it also takes a proof about a
sequence apart again. -/
theorem wp_bind {post : γ → β → Prop} {p : Prog C R α} {f : α → Prog C R β} :
    ∀ {g : γ}, (p >>= f).wp S post g ↔ p.wp S (fun g a => (f a).wp S post g) g := by
  induction p with
  | ret a => exact Iff.rfl
  | call c k ih =>
    intro g
    simp only [call_bind, wp_call, ih]

/-- A choice between two programs is a choice between their preconditions. -/
theorem wp_ite {post : γ → α → Prop} {c : Prop} [Decidable c] {p q : Prog C R α} {g : γ} :
    (if c then p else q).wp S post g ↔ if c then p.wp S post g else q.wp S post g := by
  by_cases h : c
  · rw [if_pos h, if_pos h]
  · rw [if_neg h, if_neg h]

/-- Weakening the postcondition, at every result and every ghost state. Together with
`wp_bind` it is how a specification lemma of a helper is used inside its caller. -/
theorem wp_mono {post post' : γ → α → Prop} (himp : ∀ g a, post g a → post' g a)
    {p : Prog C R α} : ∀ {g : γ}, p.wp S post g → p.wp S post' g := by
  induction p with
  | ret a => exact fun h => himp _ _ h
  | call c k ih => exact fun h => ⟨h.1, fun r hr => ih r (h.2 r hr)⟩

/-- **Soundness half way**: along an expectedly answered path every call is licensed by the
ghost state reached before it, and what is left of the program still meets the specification.
The second half is what lets a thread of a pool be stopped anywhere and taken up again. -/
theorem wp_path {post : γ → α → Prop} {p q : Prog C R α} {t : List (Event C R)}
    (h : Path p t q) : ∀ {g : γ}, p.wp S post g → S.Answered g t →
      q.wp S post (S.after g t) ∧
        ∀ t₁ c r t₂, t = t₁ ++ ⟨c, r⟩ :: t₂ → S.pre (S.after g t₁) c := by
  induction h with
  | nil p => exact fun hwp _ => ⟨hwp, fun t₁ c r t₂ h => by simp at h⟩
  | call r _ ih =>
    rintro g hwp ⟨hr, hans⟩
    -- the first call is licensed by `g` itself, all later ones by the induction hypothesis
    obtain ⟨hrest, hpre⟩ := ih (hwp.2 r hr) hans
    refine ⟨hrest, ?_⟩
    intro t₁ c' r' t₂ h
    rcases t₁ with _ | ⟨e, t₁⟩
    · obtain ⟨heq, -⟩ := List.cons.inj h
      cases heq
      exact hwp.1
    · obtain ⟨rfl, htl⟩ := List.cons.inj h
      exact hpre t₁ c' r' t₂ htl

/-- **Soundness**: along an expectedly answered trace every call is licensed as well, and the
result satisfies the postcondition. A trace is a path to its result, where nothing is left to be
done. -/
theorem wp_sound {post : γ → α → Prop} {p : Prog C R α} {t : List (Event C R)} {a : α} {g : γ}
    (hwp : p.wp S post g) (ht : Trace p t a) (hans : S.Answered g t) :
    post (S.after g t) a ∧ ∀ t₁ c r t₂, t = t₁ ++ ⟨c, r⟩ :: t₂ → S.pre (S.after g t₁) c :=
  wp_path ht.path hwp hans

end Prog

/-! ### Watching the calls

A specification that says how calls are answered is asked, on top of it, which calls are made.
The answers and the ghost state stay; only the licences are replaced, so a fact about the
result of a program can be extended to a fact about its calls without a second model of the
environment. -/

namespace Prog

variable {C : Type u} {R : C → Type v} {σ β : Type w} {γ : Type x}

/-- A loop, cut off after a number of rounds. A round returns the state of the next one, or
the result; when the rounds are used up the loop makes the call `cut`, which a model answers
with an empty reply type, so that nothing is ever said about what comes after it. -/
def loop (cut : Prog C R β) (body : σ → Prog C R (σ ⊕ β)) : ℕ → σ → Prog C R β
  | 0, _ => cut
  | n + 1, s => body s >>= fun
    | .inl s' => loop cut body n s'
    | .inr b => ret b

/-- **Loop rule**: what a round keeps until it returns, the loop has when it returns. The
invariant relates the loop's own state to the ghost state, and the bound `n` is arbitrary: a
property proved for every bound holds of every finite run of the unbounded loop. -/
theorem wp_loop {S : Spec C R γ} {post : γ → β → Prop} {cut : Prog C R β}
    {body : σ → Prog C R (σ ⊕ β)} (I : σ → γ → Prop) (hcut : ∀ s g, I s g → cut.wp S post g)
    (hbody : ∀ s g, I s g → (body s).wp S (fun g => Sum.elim (fun s' => I s' g) (post g)) g)
    (n : ℕ) : ∀ {s : σ} {g : γ}, I s g → (loop cut body n s).wp S post g := by
  induction n with
  | zero => exact fun hI => hcut _ _ hI
  | succ n ih =>
    intro s g hI
    -- the round either goes on with the invariant or returns with the postcondition
    refine wp_bind.mpr (wp_mono ?_ (hbody s g hI))
    rintro g' (s' | b) h
    · exact ih h
    · exact h

end Prog

/-! ## Programs confined to some calls

The cheapest fact about a program is which calls it can make at all. It needs no ghost state
and no assumption about replies, and by the frame rule `Only.wp` it already gives every
specification that these calls cannot disturb. -/

namespace Prog

variable {C : Type u} {R : C → Type v} {α β : Type w} {γ : Type x}

/-- Every call the program can make, whatever the replies, satisfies `P`. Unlike a statement
about traces this also counts calls behind replies that never come. -/
def Only (P : C → Prop) : Prog C R α → Prop
  | ret _ => True
  | call c k => P c ∧ ∀ r, (k r).Only P

variable {P : C → Prop}

@[simp] theorem only_ret {a : α} : (ret a : Prog C R α).Only P := trivial

@[simp] theorem only_call {c : C} {k : R c → Prog C R α} :
    (call c k).Only P ↔ P c ∧ ∀ r, (k r).Only P := Iff.rfl

theorem Only.bind {p : Prog C R α} {f : α → Prog C R β} (hp : p.Only P)
    (hf : ∀ a, (f a).Only P) : (p >>= f).Only P := by
  induction p with
  | ret a => exact hf a
  | call c k ih => exact ⟨hp.1, fun r => ih r (hp.2 r)⟩

theorem Only.mono {Q : C → Prop} (himp : ∀ c, P c → Q c) {p : Prog C R α} (hp : p.Only P) :
    p.Only Q := by
  induction p with
  | ret a => trivial
  | call c k ih => exact ⟨himp c hp.1, fun r => ih r (hp.2 r)⟩

/-- What is left of such a program makes only such calls, wherever it was stopped. -/
theorem Only.of_path {p q : Prog C R α} (hp : p.Only P) {t : List (Event C R)}
    (h : Path p t q) : q.Only P := by
  induction h with
  | nil p => exact hp
  | call r _ ih => exact ih (hp.2 r)

/-- Along a trace of such a program every call satisfies `P`. -/
theorem Only.of_trace {p : Prog C R α} (hp : p.Only P) {t : List (Event C R)} {a : α}
    (ht : Trace p t a) : ∀ e ∈ t, P e.1 := by
  induction ht with
  | ret a => exact fun e he => absurd he List.not_mem_nil
  | call r _ ih =>
    intro e he
    rcases List.mem_cons.mp he with rfl | he
    · exact hp.1
    · exact ih (hp.2 r) e he

/-- **Frame rule**: if the calls in `P` are licensed by an invariant of the ghost
state and keep it, a program confined to `P` meets the specification and keeps the
invariant. -/
theorem Only.wp {S : Spec C R γ} {I : γ → Prop} {p : Prog C R α} (hp : p.Only P)
    (hstep : ∀ g c, I g → P c → S.pre g c ∧ ∀ r, S.ans g c r → I (S.next g c r)) :
    ∀ {g : γ}, I g → p.wp S (fun g _ => I g) g := by
  induction p with
  | ret a => exact fun hg => hg
  | call c k ih =>
    intro g hg
    obtain ⟨hpre, hnext⟩ := hstep g c hg hp.1
    exact ⟨hpre, fun r hr => ih r (hp.2 r) (hnext r hr)⟩

end Prog

/-! ## Larger signatures

A component is modelled over its own calls. When several components run beside each other, or
one of them calls another, their calls are put into one larger type, and a program of the
smaller signature becomes one of the larger. Nothing has to be proved again for it: its
traces, its specifications and the calls it is confined to all carry over. -/

/-- The specification of the larger signature, read for the smaller one: a call is licensed,
answered and noted down as its image is. -/
def Spec.comap {C : Type u} {D : Type u} {S : D → Type v} {γ : Type x} (T : Spec D S γ)
    (i : C → D) : Spec C (fun c => S (i c)) γ where
  pre g c := T.pre g (i c)
  ans g c r := T.ans g (i c) r
  next g c r := T.next g (i c) r

namespace Prog

variable {C : Type u} {D : Type u} {S : D → Type v} {α : Type w} {γ : Type x} {i : C → D}

/-- A program whose calls are some of the calls of a larger signature. Only the names of the
calls change; replies keep their types, because the reply family of the smaller signature is
the larger one's along `i`. -/
def embed (i : C → D) : Prog C (fun c => S (i c)) α → Prog D S α
  | ret a => ret a
  | call c k => call (i c) fun r => (k r).embed i

/-- The traces of an embedded program are those of the program, embedded, in both directions:
the larger signature lets the program do nothing new. -/
theorem trace_embed {p : Prog C (fun c => S (i c)) α} {a : α} :
    ∀ {t : List (Event D S)}, (p.embed i).Trace t a ↔
      ∃ t', t = t'.map (fun e => ⟨i e.1, e.2⟩) ∧ p.Trace t' a := by
  induction p with
  | ret b =>
    intro t
    simp only [embed, trace_ret]
    refine ⟨?_, ?_⟩
    · rintro ⟨rfl, rfl⟩
      exact ⟨[], rfl, rfl, rfl⟩
    · rintro ⟨t', rfl, rfl, rfl⟩
      exact ⟨rfl, rfl⟩
  | call c k ih =>
    intro t
    simp only [embed, trace_call, ih]
    refine ⟨?_, ?_⟩
    · rintro ⟨r, _, rfl, t', rfl, h⟩
      exact ⟨⟨c, r⟩ :: t', rfl, r, t', rfl, h⟩
    · rintro ⟨_, rfl, r, t', rfl, h⟩
      exact ⟨r, _, rfl, t', rfl, h⟩

/-- An embedded program meets a specification of the larger signature exactly if the program
itself meets its restriction. Proofs about components are moved into a pool by this lemma. -/
theorem wp_embed {T : Spec D S γ} {post : γ → α → Prop} {p : Prog C (fun c => S (i c)) α} :
    ∀ {g : γ}, (p.embed i).wp T post g ↔ p.wp (T.comap i) post g := by
  induction p with
  | ret a => exact Iff.rfl
  | call c k ih =>
    intro g
    exact and_congr_right fun _ => forall_congr' fun r => imp_congr_right fun _ => ih r

theorem Only.embed {P : D → Prop} {p : Prog C (fun c => S (i c)) α}
    (hp : p.Only fun c => P (i c)) : (p.embed i).Only P := by
  induction p with
  | ret a => trivial
  | call c k ih => exact ⟨hp.1, fun r => ih r (hp.2 r)⟩

end Prog

/-! ## Programs against a world

Here the replies come from a world with a state of its own, and nothing else acts between two
calls. It is the reading for concrete runs and for sequential steps inside a larger run;
interference by others is the subject of the pool. -/

namespace Prog

variable {C : Type u} {R : C → Type v} {α β : Type w} {W : Type x}

/-- `Exec act p w t a w'`: against a world that answers by `act`, the program runs
from `w` to `w'` with trace `t` and result `a`, undisturbed by anything else. -/
inductive Exec (act : W → (c : C) → R c → W → Prop) :
    Prog C R α → W → List (Event C R) → α → W → Prop where
  /-- a returned value leaves the world alone -/
  | ret (a : α) (w : W) : Exec act (Prog.ret a) w [] a w
  /-- the world answers one call, then the continuation runs -/
  | call {c : C} {k : R c → Prog C R α} {w w₁ w₂ : W} {r : R c} {t : List (Event C R)} {a : α} :
      act w c r w₁ → Exec act (k r) w₁ t a w₂ → Exec act (Prog.call c k) w (⟨c, r⟩ :: t) a w₂

variable {act : W → (c : C) → R c → W → Prop}

@[simp] theorem exec_ret {a b : α} {w w' : W} {t : List (Event C R)} :
    Exec act (ret a : Prog C R α) w t b w' ↔ t = [] ∧ b = a ∧ w' = w := by
  refine ⟨?_, ?_⟩
  · intro h
    cases h
    exact ⟨rfl, rfl, rfl⟩
  · rintro ⟨rfl, rfl, rfl⟩
    exact .ret _ _

@[simp] theorem exec_call {c : C} {k : R c → Prog C R α} {w w' : W} {t : List (Event C R)}
    {a : α} : Exec act (call c k) w t a w' ↔ ∃ (r : R c) (w₁ : W) (t' : List (Event C R)),
      t = ⟨c, r⟩ :: t' ∧ act w c r w₁ ∧ Exec act (k r) w₁ t' a w' := by
  refine ⟨?_, ?_⟩
  · intro h
    cases h with
    | call hact h => exact ⟨_, _, _, rfl, hact, h⟩
  · rintro ⟨r, w₁, t', rfl, hact, h⟩
    exact .call hact h

/-- The execution of a sequence is cut where the first program returns, in the world the first
one leaves behind. -/
theorem exec_bind {p : Prog C R α} {f : α → Prog C R β} :
    ∀ {w w' : W} {t : List (Event C R)} {b : β}, Exec act (p >>= f) w t b w' ↔
      ∃ t₁ t₂ a w₁, t = t₁ ++ t₂ ∧ Exec act p w t₁ a w₁ ∧ Exec act (f a) w₁ t₂ b w' := by
  induction p with
  | ret a => simp
  | call c k ih =>
    intro w w' t b
    simp only [call_bind, exec_call, ih]
    refine ⟨?_, ?_⟩
    · rintro ⟨r, w₁, t', rfl, hact, t₁, t₂, a, w₂, rfl, h₁, h₂⟩
      exact ⟨⟨c, r⟩ :: t₁, t₂, a, w₂, rfl, ⟨r, w₁, t₁, rfl, hact, h₁⟩, h₂⟩
    · rintro ⟨t₁, t₂, a, w₂, rfl, ⟨r, w₁, t', rfl, hact, h₁⟩, h₂⟩
      exact ⟨r, w₁, t' ++ t₂, rfl, hact, t', t₂, a, w₂, rfl, h₁, h₂⟩

/-- An execution leaves a trace, so what holds of every trace holds of every execution,
whatever the world is like. -/
theorem Exec.trace {p : Prog C R α} {w w' : W} {t : List (Event C R)} {a : α}
    (h : Exec act p w t a w') : Trace p t a := by
  induction h with
  | ret a w => exact .ret a
  | call _ _ ih => exact .call _ ih

/-- What every answer of the world satisfies, every event of the trace does. It turns a
property of the single step `act` into one of the whole record. -/
theorem Exec.forall_events {Q : (c : C) → R c → Prop}
    (hQ : ∀ {w c r w'}, act w c r w' → Q c r) {p : Prog C R α} {w w' : W}
    {t : List (Event C R)} {a : α} (h : Exec act p w t a w') : ∀ e ∈ t, Q e.1 e.2 := by
  induction h with
  | ret a w => exact fun e he => absurd he List.not_mem_nil
  | call hact _ ih =>
    intro e he
    rcases List.mem_cons.mp he with rfl | he
    · exact hQ hact
    · exact ih e he

/-- What the calls in `P` keep, an execution that makes only such calls keeps. The calls
outside `P` may break the invariant; the hypothesis on the trace says that none was made. -/
theorem Exec.invariant {P : C → Prop} {I : W → Prop}
    (hI : ∀ {w c r w'}, P c → act w c r w' → I w → I w') {p : Prog C R α} {w w' : W}
    {t : List (Event C R)} {a : α} (h : Exec act p w t a w') (hP : ∀ e ∈ t, P e.1) (hw : I w) :
    I w' := by
  induction h with
  | ret a w => exact hw
  | call hact _ ih =>
    exact ih (fun e he => hP e (List.mem_cons_of_mem _ he))
      (hI (hP _ (List.mem_cons_self ..)) hact hw)

end Prog
