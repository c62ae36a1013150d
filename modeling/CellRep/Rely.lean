import CellRep.Pool

/-!
# Rely and guarantee

A fixed set of programs over one world, interleaved call by call. Each of them relies on
what the others may do to the world (`rely`) and guarantees what it does itself (`guar`).

A program that is not alone does not know which world it is in, only which worlds it may be
in. `Spec.among` takes that set as the ghost state: after a call it holds the worlds the
answer leaves possible, together with all that the others can make of them. The rules for
`wp` then hold as they stand, and `Prog.Guarded.parallel` puts the programs side by side.
-/

universe u v

variable {C : Type u} {R : C → Type v} {W L : Type u}

/-- The specification among others: the ghost state is the set of worlds the program may be
in, and every call is asked to keep the guarantee. A reply is to be expected if one of these
worlds gives it, and it leaves those worlds that would have given it, closed under what the
others may do next. -/
def Spec.among (S : Spec C R W) (rely guar : W → W → Prop) : Spec C R (Set W) where
  pre P c := ∀ w ∈ P, S.pre w c ∧ ∀ r, S.ans w c r → guar w (S.next w c r)
  ans P c r := ∃ w ∈ P, S.ans w c r
  next P c r := {w' | ∃ w ∈ P, S.ans w c r ∧ rely (S.next w c r) w'}

section

variable {S : Spec C R W} {rely guar : W → W → Prop} {P : Set W} {c : C} {r : R c}

/-- The others stay within the worlds that are possible after a call, since what they may do
is already closed under repetition. -/
theorem Spec.next_closed (htrans : ∀ {w w' w''}, rely w w' → rely w' w'' → rely w w'') :
    ∀ w ∈ (S.among rely guar).next P c r, ∀ w', rely w w' →
      w' ∈ (S.among rely guar).next P c r := by
  rintro w ⟨w₀, hw₀, hans, hrely⟩ w' hrely'
  exact ⟨w₀, hw₀, hans, htrans hrely hrely'⟩

end

/-- The program keeps its guarantee in a world, whatever the others do, and leaves what `post`
says. The set `P` is existential: it is what the program may know at the moment, and it has to
be closed under the rely for the knowledge to last until the next call. -/
def Prog.Guarded (S : Spec C R W) (rely guar : W → W → Prop) (post : W → Prop)
    (p : Prog C R Unit) (w : W) : Prop :=
  ∃ P : Set W, w ∈ P ∧ (∀ w ∈ P, ∀ w', rely w w' → w' ∈ P) ∧
    p.wp (S.among rely guar) (fun P _ => ∀ w ∈ P, post w) P

/-- Nothing but the programs: the world moves when a call is answered, as the specification
says. No program is started and nothing happens by itself, so that all interference is that of
the programs in the configuration. -/
def Spec.system (S : Spec C R W) : System C R W L where
  act w c r w' := S.ans w c r ∧ w' = S.next w c r
  env _ _ := False
  spawn _ _ _ := False

section

variable {S : Spec C R W} {rely guar : L → W → W → Prop} {post : L → W → Prop}

/-- What holds along a run of guarded programs: they are the programs it began with, each of
them is still guarded in the world as it is, every call was licensed in some world, and the
world has moved by the guarantees only. -/
structure Prog.Guarded.Run (S : Spec C R W) (rely guar : L → W → W → Prop) (post : L → W → Prop)
    (w₀ : W) (ls : List L) (cfg : Config C R W L) : Prop where
  labels : cfg.threads.map Thread.label = ls
  guarded : ∀ th ∈ cfg.threads,
    th.rest.Guarded S (rely th.label) (guar th.label) (post th.label) cfg.world
  licensed : ∀ th ∈ cfg.threads, ∀ e ∈ th.past, ∃ w, S.pre w e.1
  moved : Relation.ReflTransGen (fun w w' => ∃ l ∈ ls, guar l w w') w₀ cfg.world

/-- One call keeps it: the caller by its own proof, the others because the guarantee is
within what they rely on. -/
theorem Prog.Guarded.Run.step (hrefl : ∀ l w, rely l w w)
    (htrans : ∀ l {w w' w''}, rely l w w' → rely l w' w'' → rely l w w'')
    (hguar : ∀ {l l' w w'}, l ≠ l' → guar l w w' → rely l' w w') {w₀ : W} {ls : List L}
    (hnd : ls.Nodup) {cfg cfg' : Config C R W L}
    (h : Run S rely guar post w₀ ls cfg) (hstep : S.system.Step cfg cfg') :
    Run S rely guar post w₀ ls cfg' := by
  obtain ⟨hlabels, hguarded, hlicensed, hmoved⟩ := h
  cases hstep with
  | env he => exact he.elim
  | spawn hs => exact hs.elim
  | @act w w' l past c k r ts₁ ts₂ hact =>
    obtain ⟨hans, rfl⟩ := hact
    -- the caller's knowledge `P` contains the actual world, so its guarantee holds of this
    -- call
    obtain ⟨P, hw, hclosed, hpre, hwp⟩ := hguarded ⟨l, past, .call c k⟩ (by simp)
    have hg : guar l w (S.next w c r) := (hpre w hw).2 r hans
    -- the labels of the others are other labels
    have hothers : ∀ th, th ∈ ts₁ ∨ th ∈ ts₂ → l ≠ th.label := by
      rw [← hlabels, List.map_append, List.map_cons, List.nodup_append, List.nodup_cons] at hnd
      rintro th (hth | hth)
      · exact (hnd.2.2 _ (List.mem_map_of_mem hth) l (List.mem_cons_self ..)).symm
      · exact fun heq => hnd.2.1.1 (List.mem_map.mpr ⟨th, hth, heq.symm⟩)
    refine ⟨?_, ?_, ?_, ?_⟩
    · rw [← hlabels, List.map_append, List.map_append, List.map_cons, List.map_cons]
    · intro th hth
      have hother : th ∈ ts₁ ∨ th ∈ ts₂ → th.rest.Guarded S (rely th.label) (guar th.label)
          (post th.label) (S.next w c r) := by
        intro hth
        obtain ⟨P', hw', hclosed', hwp'⟩ := hguarded th (by
          rcases hth with hth | hth <;> simp [hth])
        exact ⟨P', hclosed' w hw' _ (hguar (hothers th hth) hg), hclosed', hwp'⟩
      rcases List.mem_append.mp hth with hth | hth
      · exact hother (Or.inl hth)
      · rcases List.mem_cons.mp hth with rfl | hth
        · exact ⟨(S.among (rely l) (guar l)).next P c r, ⟨w, hw, hans, hrefl l _⟩,
            Spec.next_closed (htrans l), hwp r ⟨w, hw, hans⟩⟩
        · exact hother (Or.inr hth)
    · intro th hth e he
      rcases System.mem_answered ⟨l, past, .call c k⟩ hth with rfl | hth
      · rcases List.mem_append.mp he with he | he
        · exact hlicensed ⟨l, past, .call c k⟩ (by simp) e he
        · obtain rfl := List.mem_singleton.mp he
          exact ⟨w, (hpre w hw).1⟩
      · exact hlicensed th hth e he
    · refine hmoved.tail ⟨l, ?_, hg⟩
      rw [← hlabels, List.map_append, List.map_cons]
      exact List.mem_append_right _ (List.mem_cons_self ..)

/-- When all programs have returned, every postcondition holds, in one and the same world. -/
theorem Prog.Guarded.Run.returned {w₀ : W} {ls : List L} {cfg : Config C R W L}
    (h : Run S rely guar post w₀ ls cfg) (hdone : ∀ th ∈ cfg.threads, th.rest = .ret ()) :
    ∀ l ∈ ls, post l cfg.world := by
  intro l hl
  rw [← h.labels] at hl
  obtain ⟨th, hth, rfl⟩ := List.mem_map.mp hl
  obtain ⟨P, hw, -, hwp⟩ := h.guarded th hth
  rw [hdone th hth] at hwp
  exact hwp _ hw

end
