import CellRep.Prog
import Mathlib.Algebra.BigOperators.Group.List.Basic
import Mathlib.Algebra.GroupWithZero.Nat
import Mathlib.Logic.Relation

/-!
# Pools of programs over one shared world

Programs (`Prog`) run side by side against one world, interleaved at the granularity
of single calls. A step of the pool is one of: the world moves on its own, a program
is started, or one thread's pending call is answered. Nothing bounds the number of
threads, and no order among them is assumed.

The proof rule is an assume-guarantee one. A `Contract` gives every thread a ghost
state (a function of its label and of its own past), says what a ghost state asserts
of the world (`holds`) and which ghost states may coexist (`compat`, for ownership),
and asks that one answered call keep the assertions of the caller *and* of every
other thread. `Contract.sound` then carries all of it along every run, so that a
pending call is licensed whenever it is reached; `Contract.observe` does the same
for an assertion no thread needs to own.
-/

universe u v

/-- An open system: how the world answers calls, how it moves on its own, and which
programs may be started under which labels. -/
structure System (C : Type u) (R : C → Type v) (W : Type u) (L : Type u) where
  /-- the world answers a call -/
  act : W → (c : C) → R c → W → Prop
  /-- the world moves on its own -/
  env : W → W → Prop
  /-- a program may be started -/
  spawn : W → L → Prog C R Unit → Prop

/-- A running program: its label, the calls it has made, what is left of it. The past is kept
because the ghost state of a contract is computed from it, and because a statement about what
a program did has to be able to name it. -/
structure Thread (C : Type u) (R : C → Type v) (L : Type u) where
  /-- what was started -/
  label : L
  /-- the calls made so far, with their replies -/
  past : List (Event C R)
  /-- the rest of the program -/
  rest : Prog C R Unit

/-- A configuration: the world and every thread started so far. Threads that have returned
stay in the list with `ret ()` for a rest, so that their past can still be spoken of. -/
structure Config (C : Type u) (R : C → Type v) (W : Type u) (L : Type u) where
  /-- the world -/
  world : W
  /-- all threads, finished ones included -/
  threads : List (Thread C R L)

namespace System

variable {C : Type u} {R : C → Type v} {W L : Type u}

/-- One step of the pool. Exactly one of the three happens, and between two calls of a thread
any number of steps of the others may come: this is where every race of the modelled
components comes from. -/
inductive Step (sys : System C R W L) : Config C R W L → Config C R W L → Prop where
  /-- the world moves on its own -/
  | env {w w' : W} {ts : List (Thread C R L)} :
      sys.env w w' → Step sys ⟨w, ts⟩ ⟨w', ts⟩
  /-- a program is started -/
  | spawn {w : W} {l : L} {p : Prog C R Unit} {ts : List (Thread C R L)} :
      sys.spawn w l p → Step sys ⟨w, ts⟩ ⟨w, ⟨l, [], p⟩ :: ts⟩
  /-- one pending call is answered -/
  | act {w w' : W} {l : L} {past : List (Event C R)} {c : C} {k : R c → Prog C R Unit}
      {r : R c} (ts₁ ts₂ : List (Thread C R L)) :
      sys.act w c r w' → Step sys ⟨w, ts₁ ++ ⟨l, past, .call c k⟩ :: ts₂⟩
        ⟨w', ts₁ ++ ⟨l, past ++ [⟨c, r⟩], k r⟩ :: ts₂⟩

/-- Configurations reachable by any number of steps. A property of all of them is a safety
property of every interleaving. -/
abbrev Reachable (sys : System C R W L) : Config C R W L → Config C R W L → Prop :=
  Relation.ReflTransGen (Step sys)

/-- An undisturbed execution of one thread is a run of the pool. Concrete runs are put
together from such stretches, one thread after the other. -/
theorem Reachable.exec {sys : System C R W L} {p : Prog C R Unit} {w w' : W}
    {t : List (Event C R)} {u : Unit} (h : Prog.Exec sys.act p w t u w') (l : L)
    (past : List (Event C R)) (ts : List (Thread C R L)) :
    sys.Reachable ⟨w, ⟨l, past, p⟩ :: ts⟩ ⟨w', ⟨l, past ++ t, .ret u⟩ :: ts⟩ := by
  induction h generalizing past with
  | ret u w =>
    rw [List.append_nil]
  | @call c k w w₁ w₂ r t u hact _ ih =>
    refine Relation.ReflTransGen.head (Step.act [] ts hact) ?_
    have hrest := ih (past ++ [⟨c, r⟩])
    rwa [List.append_assoc, List.singleton_append] at hrest

/-- Starting a program and running it undisturbed, which leaves one finished thread in front
of the others. -/
theorem Reachable.spawn_exec {sys : System C R W L} {p : Prog C R Unit} {w w' : W} {l : L}
    {t : List (Event C R)} {u : Unit} (hspawn : sys.spawn w l p)
    (h : Prog.Exec sys.act p w t u w') (ts : List (Thread C R L)) :
    sys.Reachable ⟨w, ts⟩ ⟨w', ⟨l, t, .ret u⟩ :: ts⟩ :=
  Relation.ReflTransGen.head (Step.spawn hspawn) (Reachable.exec h l [] ts)

/-- After an answered call a thread is the caller, or it was there before. -/
theorem mem_answered {ts₁ ts₂ : List (Thread C R L)} (caller : Thread C R L)
    {caller' th : Thread C R L} (h : th ∈ ts₁ ++ caller' :: ts₂) :
    th = caller' ∨ th ∈ ts₁ ++ caller :: ts₂ := by
  rcases List.mem_append.mp h with h | h
  · exact .inr (List.mem_append_left _ h)
  · rcases List.mem_cons.mp h with rfl | h
    · exact .inl rfl
    · exact .inr (List.mem_append_right _ (List.mem_cons_of_mem _ h))

/-- **Invariants of single threads**: what holds of a thread when it is started, is kept
by its own calls and undone by nothing else holds of every thread in every run. -/
theorem Reachable.forall_threads {sys : System C R W L} {I : W → Thread C R L → Prop}
    (henv : ∀ {w w' th}, sys.env w w' → I w th → I w' th)
    (hspawn : ∀ {w l p}, sys.spawn w l p → I w ⟨l, [], p⟩)
    (hother : ∀ {w c r w' th}, sys.act w c r w' → I w th → I w' th)
    (hown : ∀ {w c r w' l past k}, sys.act w c r w' → I w ⟨l, past, .call c k⟩ →
      I w' ⟨l, past ++ [⟨c, r⟩], k r⟩)
    {cfg cfg' : Config C R W L} (h : sys.Reachable cfg cfg')
    (hcfg : ∀ th ∈ cfg.threads, I cfg.world th) : ∀ th ∈ cfg'.threads, I cfg'.world th := by
  induction h with
  | refl => exact hcfg
  | tail _ hstep ih =>
    intro th hth
    cases hstep with
    | env he => exact henv he (ih th hth)
    | spawn hs =>
      rcases List.mem_cons.mp hth with rfl | hth
      · exact hspawn hs
      · exact ih th hth
    | @act w w' l past c k r ts₁ ts₂ hact =>
      rcases mem_answered ⟨l, past, .call c k⟩ hth with rfl | hth
      · exact hown hact (ih ⟨l, past, .call c k⟩ (by simp))
      · exact hother hact (ih th hth)

/-- The system in which only the replies allowed by `ok` are given. A condition under which a
property holds is stated as such a restriction; the counterexample is then a run of the
unrestricted system. -/
def restrict (sys : System C R W L) (ok : W → (c : C) → R c → Prop) : System C R W L where
  act w c r w' := sys.act w c r w' ∧ ok w c r
  env := sys.env
  spawn := sys.spawn

theorem spawn_restrict {sys : System C R W L} {ok : W → (c : C) → R c → Prop} {w : W} {l : L}
    {p : Prog C R Unit} : (sys.restrict ok).spawn w l p ↔ sys.spawn w l p := Iff.rfl

/-- A run with fewer replies is a run, so what is refuted for the restricted system is refuted
for the system itself. -/
theorem Reachable.of_restrict {sys : System C R W L} {ok : W → (c : C) → R c → Prop}
    {cfg cfg' : Config C R W L} (h : (sys.restrict ok).Reachable cfg cfg') :
    sys.Reachable cfg cfg' := by
  refine Relation.ReflTransGen.mono (fun a b hstep => ?_) cfg cfg' h
  cases hstep with
  | env he => exact .env he
  | spawn hs => exact .spawn hs
  | act ts₁ ts₂ hact => exact .act ts₁ ts₂ hact.1

/-- The system in which the world moves on its own only as `ok` allows. An assumption about
what others do goes here; one about what they answer goes into `restrict`. -/
def calm (sys : System C R W L) (ok : W → W → Prop) : System C R W L where
  act := sys.act
  env w w' := sys.env w w' ∧ ok w w'
  spawn := sys.spawn

theorem spawn_calm {sys : System C R W L} {ok : W → W → Prop} {w : W} {l : L}
    {p : Prog C R Unit} : (sys.calm ok).spawn w l p ↔ sys.spawn w l p := Iff.rfl

/-- A run in a calmer world is a run of the system itself. -/
theorem Reachable.of_calm {sys : System C R W L} {ok : W → W → Prop}
    {cfg cfg' : Config C R W L} (h : (sys.calm ok).Reachable cfg cfg') :
    sys.Reachable cfg cfg' := by
  refine Relation.ReflTransGen.mono (fun a b hstep => ?_) cfg cfg' h
  cases hstep with
  | env he => exact .env he.1
  | spawn hs => exact .spawn hs
  | act ts₁ ts₂ hact => exact .act ts₁ ts₂ hact

end System

/-! ## Contracts

The rule of Owicki and Gries for a pool of unknown size. Each thread has a ghost state that
only its own calls move. What a ghost state asserts of the world has to survive the calls of
all others, and `act_ok` asks for that once, for one call against one other ghost state; the
size of the pool does not enter. -/

/-- An assume-guarantee contract for a system, with ghost states in `γ`. Everything a proof
about one system has to supply is a field here, and the rest of this file is generic: what
`wp` says of each program alone (`spawn_ok`), and that one step of anybody disturbs nobody
(`env_ok`, `act_ok`). -/
structure Contract {C : Type u} {R : C → Type v} {W L : Type u} (sys : System C R W L)
    (γ : Type u) where
  /-- what a ghost state licenses and expects -/
  spec : Spec C R γ
  /-- the ghost state a thread is born with -/
  init : L → γ
  /-- the invariant of the world alone -/
  inv : W → Prop
  /-- what a ghost state asserts of the world -/
  holds : W → γ → Prop
  /-- which ghost states may coexist -/
  compat : γ → γ → Prop
  /-- coexistence is symmetric -/
  compat_symm : ∀ {g g'}, compat g g' → compat g' g
  /-- the environment keeps the invariant and every assertion -/
  env_ok : ∀ {w w'}, inv w → sys.env w w' → inv w' ∧ ∀ g, holds w g → holds w' g
  /-- what is started meets the specification from its initial ghost state -/
  spawn_ok : ∀ {w l p}, inv w → sys.spawn w l p →
    p.wp spec (fun _ _ => True) (init l) ∧ holds w (init l) ∧ ∀ g, compat (init l) g
  /-- an answered call keeps the caller's assertion and everyone else's -/
  act_ok : ∀ {w g c r w'}, inv w → holds w g → spec.pre g c → sys.act w c r w' →
    spec.ans g c r ∧ inv w' ∧ holds w' (spec.next g c r) ∧
      ∀ g', holds w g' → compat g g' → holds w' g' ∧ compat (spec.next g c r) g'

namespace Contract

variable {C : Type u} {R : C → Type v} {W L γ : Type u} {sys : System C R W L}

/-- The ghost state of a thread: its initial one, moved along its past. It is a function of
the thread and no part of the configuration, so the pool is the same whatever is proved about
it. -/
def ghost (K : Contract sys γ) (th : Thread C R L) : γ :=
  K.spec.after (K.init th.label) th.past

/-- A thread keeps to the contract in world `w`: what its ghost state asserts is true there,
and what is left of its program still meets the specification from that ghost state. -/
def Keeps (K : Contract sys γ) (w : W) (th : Thread C R L) : Prop :=
  K.holds w (K.ghost th) ∧ th.rest.wp K.spec (fun _ _ => True) (K.ghost th)

/-- The whole configuration keeps to the contract. This is the inductive invariant behind
every result about a pool. -/
structure Meets (K : Contract sys γ) (cfg : Config C R W L) : Prop where
  /-- the world's own invariant -/
  inv : K.inv cfg.world
  /-- every thread's assertion and obligations -/
  keeps : ∀ th ∈ cfg.threads, K.Keeps cfg.world th
  /-- the ghost states coexist -/
  pairwise : cfg.threads.Pairwise fun th th' => K.compat (K.ghost th) (K.ghost th')

/-- The ghost state after one more call, whatever the rest of the program is: `ghost` reads
the label and the past only. -/
theorem ghost_concat (K : Contract sys γ) (l : L) (past : List (Event C R)) (c : C) (r : R c)
    (p q : Prog C R Unit) :
    K.ghost ⟨l, past ++ [⟨c, r⟩], p⟩ = K.spec.next (K.ghost ⟨l, past, q⟩) c r := by
  simp [ghost]

/-- **One step keeps the contract.** The case that matters is an answered call: the caller
gets its new ghost state from its own `wp`, the others keep theirs by `act_ok`, and ownership
is carried over pair by pair. -/
theorem Meets.step {K : Contract sys γ} {cfg cfg' : Config C R W L} (hm : K.Meets cfg)
    (hs : sys.Step cfg cfg') : K.Meets cfg' := by
  cases hs with
  | env he =>
    obtain ⟨hinv, hstable⟩ := K.env_ok hm.inv he
    exact ⟨hinv, fun th hth => ⟨hstable _ (hm.keeps th hth).1, (hm.keeps th hth).2⟩, hm.pairwise⟩
  | spawn hsp =>
    obtain ⟨hwp, hholds, hcompat⟩ := K.spawn_ok hm.inv hsp
    refine ⟨hm.inv, ?_, ?_⟩
    · intro th hth
      rcases List.mem_cons.mp hth with rfl | hth
      · exact ⟨hholds, hwp⟩
      · exact hm.keeps th hth
    · exact List.pairwise_cons.mpr ⟨fun th _ => hcompat _, hm.pairwise⟩
  | @act w w' l past c k r ts₁ ts₂ hact =>
    -- the caller moves on; every other thread is framed by `act_ok`
    have hcaller := hm.keeps ⟨l, past, .call c k⟩ (by simp)
    obtain ⟨hpre, hcont⟩ := hcaller.2
    obtain ⟨hans, hinv, hholds, hframe⟩ := K.act_ok hm.inv hcaller.1 hpre hact
    -- the caller stands between `ts₁` and `ts₂`, so coexistence is needed towards both sides
    have hpw := hm.pairwise
    rw [List.pairwise_append] at hpw
    obtain ⟨hpw₁, hpw₂, hcross⟩ := hpw
    rw [List.pairwise_cons] at hpw₂
    have hleft : ∀ th ∈ ts₁, K.holds w' (K.ghost th) ∧
        K.compat (K.spec.next (K.ghost ⟨l, past, .call c k⟩) c r) (K.ghost th) := fun th hth =>
      hframe _ (hm.keeps th (by simp [hth])).1
        (K.compat_symm (hcross th hth _ (List.mem_cons_self ..)))
    have hright : ∀ th ∈ ts₂, K.holds w' (K.ghost th) ∧
        K.compat (K.spec.next (K.ghost ⟨l, past, .call c k⟩) c r) (K.ghost th) := fun th hth =>
      hframe _ (hm.keeps th (by simp [hth])).1 (hpw₂.1 th hth)
    refine ⟨hinv, ?_, ?_⟩
    · intro th hth
      rcases List.mem_append.mp hth with hth | hth
      · exact ⟨(hleft th hth).1, (hm.keeps th (by simp [hth])).2⟩
      · rcases List.mem_cons.mp hth with rfl | hth
        · rw [Keeps, K.ghost_concat l past c r _ (.call c k)]
          exact ⟨hholds, hcont r hans⟩
        · exact ⟨(hright th hth).1, (hm.keeps th (by simp [hth])).2⟩
    · refine List.pairwise_append.mpr ⟨hpw₁, List.pairwise_cons.mpr ⟨fun th hth => ?_, hpw₂.2⟩,
        fun th hth th' hth' => ?_⟩
      · rw [K.ghost_concat l past c r _ (.call c k)]
        exact (hright th hth).2
      · rcases List.mem_cons.mp hth' with rfl | hth'
        · rw [K.ghost_concat l past c r _ (.call c k)]
          exact K.compat_symm (hleft th hth).2
        · exact hcross th hth th' (List.mem_cons_of_mem _ hth')

/-- A run keeps the contract, by induction on its steps. -/
theorem Meets.run {K : Contract sys γ} {cfg cfg' : Config C R W L} (hm : K.Meets cfg)
    (hr : sys.Reachable cfg cfg') : K.Meets cfg' := by
  induction hr with
  | refl => exact hm
  | tail _ hs ih => exact ih.step hs

/-- **Soundness of contracts**: from an invariant world with no thread, every reachable
configuration keeps the contract. The theorems about systems start here; where threads are
there from the beginning, `Meets.run` is used from a configuration that meets the contract. -/
theorem sound (K : Contract sys γ) {w : W} {cfg : Config C R W L} (hw : K.inv w)
    (hr : sys.Reachable ⟨w, []⟩ cfg) : K.Meets cfg :=
  Meets.run ⟨hw, fun _ hth => absurd hth List.not_mem_nil, List.Pairwise.nil⟩ hr

/-- The pending call of a thread is licensed by its ghost state. It is the way out of a
contract: whatever `spec.pre` says holds at the moment a call is about to be made, in every
run. -/
theorem Meets.licensed {K : Contract sys γ} {cfg : Config C R W L} (hm : K.Meets cfg)
    {th : Thread C R L} (hth : th ∈ cfg.threads) {c : C} {k : R c → Prog C R Unit}
    (hc : th.rest = .call c k) : K.spec.pre (K.ghost th) c := by
  have hwp := (hm.keeps th hth).2
  rw [hc] at hwp
  exact hwp.1

/-- **Observers**: an assertion that coexists with every ghost state stays true along every
run that keeps the contract. An observer is a ghost state without a thread, used for facts
such as "this container stays absent" that nobody has to hold. -/
theorem Meets.observe {K : Contract sys γ} {cfg cfg' : Config C R W L} (hm : K.Meets cfg)
    (hr : sys.Reachable cfg cfg') {g : γ} (hg : ∀ g', K.compat g' g)
    (hh : K.holds cfg.world g) : K.holds cfg'.world g := by
  induction hr with
  | refl => exact hh
  | @tail b c hb hs ih =>
    have hmb := hm.run hb
    cases hs with
    | env he => exact (K.env_ok hmb.inv he).2 g ih
    | spawn hsp => exact ih
    | act ts₁ ts₂ hact =>
      have hcaller := hmb.keeps _ (List.mem_append_right ts₁ (List.mem_cons_self ..))
      obtain ⟨-, -, -, hframe⟩ := K.act_ok hmb.inv hcaller.1 hcaller.2.1 hact
      exact (hframe g ih (hg _)).1

end Contract

/-- **One owner**: where no two elements have the property, and only an element with
the property counts, and counts once at most, the whole list counts once at most. -/
theorem List.sum_map_le_one_of_pairwise {α : Type u} {p : α → Prop} {f : α → ℕ} {l : List α}
    (hpw : l.Pairwise fun a b => ¬ (p a ∧ p b)) (hf : ∀ a ∈ l, f a ≤ 1)
    (hp : ∀ a ∈ l, f a ≠ 0 → p a) : (l.map f).sum ≤ 1 := by
  induction l with
  | nil => exact Nat.zero_le _
  | cons a l ih =>
    obtain ⟨ha, hpw⟩ := List.pairwise_cons.mp hpw
    have hrest := ih hpw (fun b hb => hf b (List.mem_cons_of_mem _ hb))
      fun b hb => hp b (List.mem_cons_of_mem _ hb)
    rw [List.map_cons, List.sum_cons]
    by_cases hzero : f a = 0
    · rw [hzero, Nat.zero_add]
      exact hrest
    · -- the head is the owner, so the rest counts for nothing
      have hpa := hp a (List.mem_cons_self ..) hzero
      have hnone : ∀ x ∈ l.map f, x = 0 := by
        intro x hx
        obtain ⟨b, hb, rfl⟩ := List.mem_map.mp hx
        by_contra hne
        exact ha b hb ⟨hpa, hp b (List.mem_cons_of_mem _ hb) hne⟩
      rw [List.sum_eq_zero hnone, Nat.add_zero]
      exact hf a (List.mem_cons_self ..)
