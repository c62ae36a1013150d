import CellRep.Pool
import Mathlib.Data.List.Induction
import Mathlib.Data.List.Nodup

/-!
# Worlds that are journals

Where all that matters is what happened and in which order, the world is a list: every
answered call is written down with its reply, and so is everything that happens on its
own. What may be answered or may happen next is decided by the journal so far.

A property of such a world is most often a **licence**: every entry was allowed by what
stood before it. `Every P w` says so, and `every_concat` is the only rule needed to keep
it along a run.
-/

universe u

section

variable {α : Type u} {P : List α → α → Prop} {w : List α} {a : α}

/-- Every entry of a list stands in the relation to the entries before it. The relation `P`
sees all of them, so it can speak of the order in which things happened and not only of what
happened. -/
def Every (P : List α → α → Prop) (w : List α) : Prop :=
  ∀ l₁ a l₂, w = l₁ ++ a :: l₂ → P l₁ a

theorem every_nil : Every P [] := fun l₁ a l₂ h => by simp at h

/-- **One more entry is one more licence.** The journal only grows at its end, and this is the
step lemma of every invariant about it. -/
theorem every_concat : Every P (w ++ [a]) ↔ Every P w ∧ P w a := by
  refine ⟨?_, ?_⟩
  · intro h
    refine ⟨?_, h w a [] rfl⟩
    rintro l₁ b l₂ rfl
    exact h l₁ b (l₂ ++ [a]) (by simp)
  · rintro ⟨hw, ha⟩ l₁ b l₂ h
    rcases List.eq_nil_or_concat l₂ with rfl | ⟨l₂, c, rfl⟩
    · obtain ⟨rfl, hab⟩ := List.append_inj' h rfl
      cases hab
      exact ha
    · rw [List.concat_eq_append, ← List.cons_append, ← List.append_assoc] at h
      obtain ⟨rfl, -⟩ := List.append_inj' h rfl
      exact hw l₁ b l₂ rfl

/-- An entry is licensed where it stands, with the journal cut at that place: what licensed it
is in the part before. -/
theorem Every.of_mem (h : Every P w) (ha : a ∈ w) : ∃ l₁ l₂, w = l₁ ++ a :: l₂ ∧ P l₁ a := by
  obtain ⟨l₁, l₂, hw⟩ := List.append_of_mem ha
  exact ⟨l₁, l₂, hw, h l₁ a l₂ hw⟩

/-- What came before is licensed too, so a statement about the journal at an earlier moment is
one about a shorter journal. -/
theorem Every.left {l₁ l₂ : List α} (h : Every P (l₁ ++ l₂)) : Every P l₁ := by
  rintro l a l' rfl
  exact h l a (l' ++ l₂) (by simp)

/-- The same, from the front: the entries of `w` come after those of `l`. It is recursive on
the list that is still to be checked, so that on a journal that is written out it unfolds to
one condition for each entry. -/
def EveryFrom (P : List α → α → Prop) : List α → List α → Prop
  | _, [] => True
  | l, a :: w => P l a ∧ EveryFrom P (l ++ [a]) w

/-- To check a list that is written out it is enough to go through it once. -/
theorem EveryFrom.every (h : EveryFrom P [] w) : Every P w := by
  have hall : ∀ {w l : List α}, Every P l → EveryFrom P l w → Every P (l ++ w) := by
    intro w
    induction w with
    | nil =>
      intro l hl _
      rwa [List.append_nil]
    | cons a w ih =>
      rintro l hl ⟨ha, hw⟩
      rw [List.append_cons]
      exact ih (every_concat.mpr ⟨hl, ha⟩) hw
  exact hall every_nil h

section

variable {p : α → Bool}

/-- **What is licensed only while nothing of its kind is there comes once at most.**
Statements that something is done at most once (a channel is closed, a metric is sent) are of
this form. -/
theorem countP_le_one_of_every (h : Every P w)
    (honce : ∀ {l a}, P l a → p a = true → l.any p = false) : w.countP p ≤ 1 := by
  induction w using List.reverseRecOn with
  | nil => exact Nat.zero_le _
  | append_singleton w a ih =>
    obtain ⟨hw, ha⟩ := every_concat.mp h
    rw [List.countP_append]
    by_cases hpa : p a
    · have hzero : w.countP p = 0 := List.countP_eq_zero.mpr (List.any_eq_false.mp (honce ha hpa))
      have hone : w.countP p + [a].countP p = 1 := by
        rw [hzero, List.countP_singleton, if_pos hpa]
      exact Nat.le_of_eq hone
    · rw [List.countP_singleton, if_neg hpa]
      exact ih hw

/-- There is one entry of such a kind at most, so two entries of it are the same entry,
replies included. -/
theorem Every.unique (h : Every P w) (honce : ∀ {l a}, P l a → p a = true → l.any p = false)
    {b : α} (ha : a ∈ w) (hb : b ∈ w) (hpa : p a) (hpb : p b) : a = b := by
  obtain ⟨l₁, l₂, rfl, hfirst⟩ := h.of_mem ha
  rcases List.mem_append.mp hb with hb | hb
  · exact absurd hpb (List.any_eq_false.mp (honce hfirst hpa) b hb)
  · rcases List.mem_cons.mp hb with rfl | hb
    · rfl
    · obtain ⟨l₃, l₄, rfl⟩ := List.append_of_mem hb
      have hlater := honce (h (l₁ ++ a :: l₃) b l₄ (by simp)) hpb
      exact absurd hpa (List.any_eq_false.mp hlater a (by simp))

end

end

/-- What happened, in order: calls with their replies, and what happened on its own. The world
has no other state; whatever a model needs to know of it is computed from the list. -/
abbrev Journal (C : Type u) (R : C → Type u) (H : Type u) : Type u := List (Event C R ⊕ H)

/-- The system of a journal: the calls that are enabled and the happenings that are
possible are written down. Nothing is started besides the threads there are. -/
def System.journal {C : Type u} {R : C → Type u} {H : Type u} (L : Type u)
    (enabled : Journal C R H → (c : C) → R c → Prop) (happens : Journal C R H → H → Prop) :
    System C R (Journal C R H) L where
  act w c r w' := enabled w c r ∧ w' = w ++ [.inl ⟨c, r⟩]
  env w w' := ∃ h, happens w h ∧ w' = w ++ [.inr h]
  spawn _ _ _ := False

section

variable {C : Type u} {R : C → Type u} {H L : Type u}
  {enabled : Journal C R H → (c : C) → R c → Prop} {happens : Journal C R H → H → Prop}
  {cfg cfg' : Config C R (Journal C R H) L}

/-- What stands in the journal stays there. A journal is never rewritten, so a fact of the
form "this has happened" is stable without further proof. -/
theorem System.Step.mem_world (h : (System.journal L enabled happens).Step cfg cfg')
    {x : Event C R ⊕ H} (hx : x ∈ cfg.world) : x ∈ cfg'.world := by
  cases h with
  | env henv =>
    obtain ⟨h, -, rfl⟩ := henv
    exact List.mem_append_left _ hx
  | spawn hs => exact hs.elim
  | act ts₁ ts₂ hact =>
    obtain ⟨-, rfl⟩ := hact
    exact List.mem_append_left _ hx

/-- One pending call is answered, and the run goes on from there: a run is unrolled from its
beginning. -/
theorem System.Reachable.answer {w : Journal C R H} {l : L} {past : List (Event C R)} {c : C}
    {k : R c → Prog C R Unit} (ts₁ ts₂ : List (Thread C R L)) (r : R c) (henabled : enabled w c r)
    (h : (System.journal L enabled happens).Reachable
      ⟨w ++ [.inl ⟨c, r⟩], ts₁ ++ ⟨l, past ++ [⟨c, r⟩], k r⟩ :: ts₂⟩ cfg) :
    (System.journal L enabled happens).Reachable ⟨w, ts₁ ++ ⟨l, past, .call c k⟩ :: ts₂⟩ cfg :=
  .head (.act ts₁ ts₂ ⟨henabled, rfl⟩) h

/-- A thread that was there from the start is on a path of its program, and what it has called
stands in the journal. The first half connects a thread with the code it runs, the second one
with what all threads see. -/
theorem System.Reachable.on_path {prog : L → Prog C R Unit} {ls : List L}
    (h : (System.journal L enabled happens).Reachable ⟨[], ls.map fun l => ⟨l, [], prog l⟩⟩ cfg) :
    ∀ th ∈ cfg.threads,
      (prog th.label).Path th.past th.rest ∧ ∀ e ∈ th.past, .inl e ∈ cfg.world := by
  refine Reachable.forall_threads
    (I := fun w th => (prog th.label).Path th.past th.rest ∧ ∀ e ∈ th.past, .inl e ∈ w)
    ?_ (fun hs => False.elim hs) ?_ ?_ h ?_
  · rintro w _ th ⟨x, -, rfl⟩ ⟨hpath, hpast⟩
    exact ⟨hpath, fun e he => List.mem_append_left _ (hpast e he)⟩
  · rintro w c r _ th ⟨-, rfl⟩ ⟨hpath, hpast⟩
    exact ⟨hpath, fun e he => List.mem_append_left _ (hpast e he)⟩
  · rintro w c r _ l past k ⟨-, rfl⟩ ⟨hpath, hpast⟩
    refine ⟨Prog.path_concat.mpr ⟨k, hpath, rfl⟩, ?_⟩
    intro e he
    rcases List.mem_append.mp he with he | he
    · exact List.mem_append_left _ (hpast e he)
    · rw [List.mem_singleton.mp he]
      exact List.mem_append_right w (List.mem_singleton.mpr rfl)
  · intro th hth
    obtain ⟨l, -, rfl⟩ := List.mem_map.mp hth
    exact ⟨.nil _, nofun⟩

end

/-! ## Replaying a journal

A concrete run is easiest to give as a journal: the list of what happened, with nothing said
about threads. It is a run of the system if each entry was possible where it stands and if
each thread, looking only at its own calls, can have made them. Both are checked by
evaluation, so that witnesses and counterexamples are lists that a reader can follow. -/

section

variable {C : Type u} {R : C → Type u} {H L : Type u}
  {enabled : Journal C R H → (c : C) → R c → Prop} {happens : Journal C R H → H → Prop}

/-- The entry can come next: a call with a reply that is enabled, or a happening that is
possible. -/
def Permitted (enabled : Journal C R H → (c : C) → R c → Prop)
    (happens : Journal C R H → H → Prop) (w : Journal C R H) : Event C R ⊕ H → Prop
  | .inl e => enabled w e.1 e.2
  | .inr h => happens w h

variable [DecidableEq L] {owner : C → L}

/-- The calls of a journal that belong to one thread. In a replay each call has one owner; a
journal in which two threads make the same call is not given this way. -/
def share (owner : C → L) (l : L) (w : Journal C R H) : List (Event C R) :=
  (w.filterMap Sum.getLeft?).filter fun e => owner e.1 = l

theorem share_concat_happening (l : L) (w : Journal C R H) (h : H) :
    share owner l (w ++ [.inr h]) = share owner l w := by
  simp [share]

theorem share_concat_own (w : Journal C R H) (e : Event C R) :
    share owner (owner e.1) (w ++ [.inl e]) = share owner (owner e.1) w ++ [e] := by
  simp [share]

theorem share_concat_other {l : L} {e : Event C R} (hl : owner e.1 ≠ l) (w : Journal C R H) :
    share owner l (w ++ [.inl e]) = share owner l w := by
  simp [share, hl]

/-- **A journal is a run** when each entry was permitted where it stands and each thread makes
its share of the calls. The induction is on the journal from its end: the last entry is either
a call, which only its owner has made, or a happening, which no thread has. -/
theorem System.Reachable.replay (owner : C → L) (prog : L → Prog C R Unit) {ls : List L}
    (hls : ls.Nodup) {w : Journal C R H} (hw : Every (Permitted enabled happens) w)
    (howner : ∀ e, .inl e ∈ w → owner e.1 ∈ ls) :
    ∀ rest : L → Prog C R Unit, (∀ l ∈ ls, (prog l).Path (share owner l w) (rest l)) →
      (System.journal L enabled happens).Reachable ⟨[], ls.map fun l => ⟨l, [], prog l⟩⟩
        ⟨w, ls.map fun l => ⟨l, share owner l w, rest l⟩⟩ := by
  induction w using List.reverseRecOn with
  | nil =>
    intro rest hpath
    have hsame : ∀ l ∈ ls, (⟨l, [], prog l⟩ : Thread C R L) = ⟨l, [], rest l⟩ := by
      intro l hl
      rw [Prog.path_nil.mp (hpath l hl)]
    rw [List.map_congr_left hsame]
    exact .refl
  | append_singleton w x ih =>
    intro rest hpath
    obtain ⟨hw', hx⟩ := every_concat.mp hw
    have howner' : ∀ e, .inl e ∈ w → owner e.1 ∈ ls := fun e he =>
      howner e (List.mem_append_left _ he)
    rcases x with e | h
    · -- before the last call its owner was at that call, and the others where they are
      have howns : owner e.1 ∈ ls := howner e (by simp)
      have hlast := hpath _ howns
      rw [share_concat_own, Prog.path_concat] at hlast
      obtain ⟨k, hk, hrest⟩ := hlast
      have hbefore := ih hw' howner' (Function.update rest (owner e.1) (.call e.1 k)) ?_
      · obtain ⟨l₁, l₂, rfl⟩ := List.append_of_mem howns
        obtain ⟨hnot, -⟩ := List.nodup_cons.mp (List.nodup_middle.mp hls)
        -- the other threads look the same before and after
        have hsame : ∀ l ∈ l₁ ++ l₂,
            (⟨l, share owner l w, Function.update rest (owner e.1) (.call e.1 k) l⟩ :
              Thread C R L) = ⟨l, share owner l (w ++ [.inl e]), rest l⟩ := by
          intro l hl
          have hne : l ≠ owner e.1 := fun heq => hnot (heq ▸ hl)
          rw [Function.update_of_ne hne, share_concat_other hne.symm]
        refine hbefore.tail ?_
        rw [List.map_append, List.map_append, List.map_cons, List.map_cons,
          List.map_congr_left fun l hl => hsame l (List.mem_append_left _ hl),
          List.map_congr_left fun l hl => hsame l (List.mem_append_right _ hl),
          Function.update_self, share_concat_own, hrest]
        exact .act _ _ ⟨hx, rfl⟩
      · intro l hl
        by_cases hown : l = owner e.1
        · subst hown
          rw [Function.update_self]
          exact hk
        · rw [Function.update_of_ne hown]
          have hother := hpath l hl
          rwa [share_concat_other (Ne.symm hown)] at hother
    · refine (ih hw' howner' rest ?_).tail ?_
      · intro l hl
        have hsame := hpath l hl
        rwa [share_concat_happening] at hsame
      · simp only [share_concat_happening]
        exact .env ⟨h, hx, rfl⟩

end
