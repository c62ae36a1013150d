import Mathlib.Data.List.AList

/-!
# Maps filled by loops

A map of the source language is an `AList`; the order of its entries carries no
meaning. Three loop shapes fill one:

* `putAll` — store every element of a list under its key, the last one winning;
* `fill` — walk over another map and store only under keys that are still free;
* `collect` — walk over another map and store what a function makes of each value, up
  to the first failure.

A walk over a map visits its entries in an arbitrary order, so the last two take the
order as an argument (`Visit m`), and `lookup_fill` and `lookup_collect` say that it
does not matter.
-/

universe u v w

/-- A map from `κ` to `α`. Duplicate keys cannot be built, since an `AList` carries the proof
that its keys are distinct; two maps are compared by `lookup`, never by the list behind them. -/
abbrev GoMap (κ : Type u) (α : Type v) : Type (max u v) := AList fun _ : κ => α

namespace GoMap

variable {κ : Type u} {α : Type v} {β : Type w} [DecidableEq κ]

/-! ## Storing a list

The first shape is an assignment in a loop over a slice. The facts come in pairs, what the
loop leaves alone and what it brings, and the distinct-key case at the end is the one the
callers want. -/

/-- Store `val x` under `key x` for every `x` of the list, in order. A key that occurs twice
ends with the later value, as an assignment in a loop does. -/
def putAll (key : α → κ) (val : α → β) (m : GoMap κ β) (l : List α) : GoMap κ β :=
  l.foldl (fun m x => m.insert (key x) (val x)) m

variable {key : α → κ} {val : α → β}

@[simp] theorem putAll_nil (m : GoMap κ β) : putAll key val m [] = m := rfl

@[simp] theorem putAll_cons (m : GoMap κ β) (x : α) (l : List α) :
    putAll key val m (x :: l) = putAll key val (m.insert (key x) (val x)) l := rfl

/-- What is not in the list keeps its old entry: a loop over a slice touches the keys of the
slice only. -/
theorem lookup_putAll_of_notMem {k : κ} {l : List α} :
    ∀ {m : GoMap κ β}, (∀ x ∈ l, key x ≠ k) → (putAll key val m l).lookup k = m.lookup k := by
  induction l with
  | nil => exact fun _ => rfl
  | cons x l ih =>
    intro m h
    rw [putAll_cons, ih fun y hy => h y (List.mem_cons_of_mem _ hy)]
    exact AList.lookup_insert_ne (Ne.symm (h x (List.mem_cons_self ..)))

/-- An entry of the result is an old one or comes from the list. No assumption on the keys is
needed in this direction, even if some of them clash. -/
theorem of_lookup_putAll {k : κ} {v : β} {l : List α} :
    ∀ {m : GoMap κ β}, (putAll key val m l).lookup k = some v →
      m.lookup k = some v ∨ ∃ x ∈ l, key x = k ∧ val x = v := by
  induction l with
  | nil => exact fun h => Or.inl h
  | cons x l ih =>
    intro m h
    rw [putAll_cons] at h
    rcases ih h with h | ⟨y, hy, hk, hv⟩
    · by_cases hx : k = key x
      · subst hx
        rw [AList.lookup_insert] at h
        exact Or.inr ⟨x, List.mem_cons_self .., rfl, Option.some.inj h⟩
      · rw [AList.lookup_insert_ne hx] at h
        exact Or.inl h
    · exact Or.inr ⟨y, List.mem_cons_of_mem _ hy, hk, hv⟩

theorem mem_putAll {k : κ} {l : List α} :
    ∀ {m : GoMap κ β}, k ∈ putAll key val m l ↔ k ∈ m ∨ ∃ x ∈ l, key x = k := by
  induction l with
  | nil => simp
  | cons x l ih =>
    intro m
    rw [putAll_cons, ih, AList.mem_insert, List.exists_mem_cons_iff, or_assoc, or_left_comm,
      eq_comm (a := k)]

/-- A map filled from a list knows exactly the keys of the list, so asking such a map whether
it has a key is asking the list. -/
theorem mem_putAll_empty {k : κ} {l : List α} :
    k ∈ putAll key val (∅ : GoMap κ β) l ↔ ∃ x ∈ l, key x = k := by
  rw [mem_putAll]
  simp

/-- What it finds comes from the list and has that key. Clashing keys are allowed here as
well; which of the elements is found is then the last one. -/
theorem of_lookup_putAll_empty {k : κ} {x : α} {l : List α}
    (h : (putAll key id (∅ : GoMap κ α) l).lookup k = some x) : x ∈ l ∧ key x = k := by
  rcases of_lookup_putAll h with h | ⟨y, hy, hk, rfl⟩
  · simp at h
  · exact ⟨hy, hk⟩

/-- Where the elements stored under `k` agree on their value, that value is found. This is the
form for keys that clash harmlessly, such as two records of one guid that lead to the same
operation. -/
theorem lookup_putAll {k : κ} {v : β} {l : List α} :
    ∀ {m : GoMap κ β}, (∃ x ∈ l, key x = k) → (∀ x ∈ l, key x = k → val x = v) →
      (putAll key val m l).lookup k = some v := by
  induction l with
  | nil =>
    rintro m ⟨x, hx, -⟩
    exact absurd hx List.not_mem_nil
  | cons y l ih =>
    intro m hex hall
    have hall' : ∀ x ∈ l, key x = k → val x = v := fun x hx =>
      hall x (List.mem_cons_of_mem _ hx)
    rw [putAll_cons]
    by_cases hl : ∃ x ∈ l, key x = k
    · exact ih hl hall'
    · -- the head is the last element stored under `k`
      obtain ⟨x, hx, hxk⟩ := hex
      rcases List.mem_cons.mp hx with rfl | hx
      · rw [lookup_putAll_of_notMem fun z hz hzk => hl ⟨z, hz, hzk⟩, ← hxk, AList.lookup_insert]
        exact congrArg some (hall x (List.mem_cons_self ..) hxk)
      · exact absurd ⟨x, hx, hxk⟩ hl

/-- Where the keys are distinct, every element of the list is found. Nothing is lost by going
through the map. -/
theorem lookup_putAll_of_nodup {x : α} {l : List α} {m : GoMap κ β} (hx : x ∈ l)
    (hnd : (l.map key).Nodup) : (putAll key val m l).lookup (key x) = some (val x) := by
  apply lookup_putAll ⟨x, hx, rfl⟩
  intro y hy hk
  rw [List.inj_on_of_nodup_map hnd hy hx hk]

/-! ## Walking over a map

A `range` over a map of the source visits each entry once, in an order that is not fixed and
may differ from walk to walk. The order is an argument here, of a type that admits every
permutation of the entries and nothing else, so a statement about all `Visit m` is one about
all executions of the loop. -/

/-- An order in which a walk over `m` visits its entries. It carries its own proof that
nothing is skipped or visited twice. -/
structure Visit (m : GoMap κ α) where
  /-- the entries in the order of the walk -/
  entries : List ((_ : κ) × α)
  /-- every entry is visited once -/
  perm : entries.Perm m.entries

/-- The walk in the order in which the entries happen to be stored, for concrete runs. -/
def Visit.stored (m : GoMap κ α) : Visit m := ⟨m.entries, List.Perm.refl _⟩

omit [DecidableEq κ] in
/-- A walk meets exactly the keys of the map, whatever its order. -/
theorem Visit.mem_iff {m : GoMap κ α} (v : Visit m) {k : κ} :
    k ∈ m ↔ ∃ e ∈ v.entries, e.1 = k := by
  rw [AList.mem_keys, AList.keys, List.keys, List.mem_map]
  refine exists_congr fun e => and_congr_left fun _ => ?_
  exact v.perm.mem_iff.symm

omit [DecidableEq κ] in
/-- **The keys of a walk, once they are sorted, do not depend on the walk.** Code that
collects the keys of a map and sorts them before it uses them is deterministic, and this is
why. -/
theorem Visit.mergeSort_keys [LE κ] [DecidableLE κ] [Std.IsLinearOrder κ] {m : GoMap κ α}
    (v : Visit m) {ks : List κ} (hperm : m.keys.Perm ks) (hsorted : ks.Pairwise (· ≤ ·)) :
    (v.entries.map Sigma.fst).mergeSort = ks := by
  have hkeys : (v.entries.map Sigma.fst).Perm ks := (v.perm.map _).trans hperm
  refine List.Perm.eq_of_pairwise (fun a b _ _ => Std.le_antisymm) ?_ hsorted
    ((List.mergeSort_perm _ _).trans hkeys)
  refine (List.pairwise_mergeSort (fun a b c hab hbc => ?_) (fun a b => ?_) _).imp
    of_decide_eq_true
  · exact decide_eq_true (Std.le_trans (of_decide_eq_true hab) (of_decide_eq_true hbc))
  · rw [Bool.or_eq_true, decide_eq_true_iff, decide_eq_true_iff]
    exact Std.le_total

/-- One entry of the walk: store `f k x` under `k` unless `k` is taken. The test is made
against the map as it is at that moment, which includes what the walk has stored itself. -/
def fillOne (f : κ → α → β) (b : GoMap κ β) (e : (_ : κ) × α) : GoMap κ β :=
  if e.1 ∈ b then b else b.insert e.1 (f e.1 e.2)

/-- Walk over a map in the given order and store under the keys that are free. Since the
walked map has each key once, what the walk itself has stored is never in its way. -/
def fill (f : κ → α → β) (b : GoMap κ β) {m : GoMap κ α} (v : Visit m) : GoMap κ β :=
  v.entries.foldl (fillOne f) b

variable {f : κ → α → β}

/-- The effect of one entry on one key, in the form that composes: what was there wins. -/
theorem lookup_fillOne (b : GoMap κ β) (e : (_ : κ) × α) (k : κ) :
    (fillOne f b e).lookup k =
      (b.lookup k).or (if k = e.1 then some (f e.1 e.2) else none) := by
  unfold fillOne
  by_cases he : e.1 ∈ b
  · rw [if_pos he]
    by_cases hk : k = e.1
    · subst hk
      obtain ⟨v, hv⟩ := Option.isSome_iff_exists.mp (AList.lookup_isSome.mpr he)
      rw [hv, Option.some_or]
    · rw [if_neg hk, Option.or_none]
  · rw [if_neg he]
    by_cases hk : k = e.1
    · subst hk
      rw [if_pos rfl, AList.lookup_insert, AList.lookup_eq_none.mpr he, Option.none_or]
    · rw [if_neg hk, Option.or_none, AList.lookup_insert_ne hk]

/-- The same along a list of entries; the first entry of a key counts, as in `dlookup`. -/
theorem lookup_foldl_fillOne {k : κ} {l : List ((_ : κ) × α)} :
    ∀ {b : GoMap κ β}, (l.foldl (fillOne f) b).lookup k =
      (b.lookup k).or ((l.dlookup k).map (f k)) := by
  induction l with
  | nil => simp
  | cons e l ih =>
    intro b
    rw [List.foldl_cons, ih, lookup_fillOne, Option.or_assoc]
    by_cases hk : k = e.1
    · subst hk
      rw [if_pos rfl, Option.some_or, List.dlookup_cons_eq, Option.map_some]
    · rw [if_neg hk, Option.none_or, List.dlookup_cons_ne _ _ hk]

/-- **The order of the walk does not matter**: a key that was taken keeps its value, a free
key gets what the walked map holds under it. -/
theorem lookup_fill {m : GoMap κ α} (v : Visit m) (b : GoMap κ β) (k : κ) :
    (fill f b v).lookup k = (b.lookup k).or ((m.lookup k).map (f k)) := by
  have hnd : v.entries.NodupKeys := (List.perm_nodupKeys v.perm).mpr m.nodupKeys
  rw [fill, lookup_foldl_fillOne, List.perm_dlookup k hnd v.perm]
  rfl

/-! ## Walking with a function that may fail

Here the body of the loop can return from the whole function with an error. Which error that
is depends on the order of the walk if several entries fail; whether there is one, and what is
stored when there is none, does not. -/

universe x

variable {ε : Type x} {g : α → Except ε β}

/-- Store `g` of every value in turn, up to the first failure. What was stored before a
failure is dropped, since the caller gets the error in its place. -/
def collectFrom (g : α → Except ε β) (b : GoMap κ β) :
    List ((_ : κ) × α) → Except ε (GoMap κ β)
  | [] => .ok b
  | e :: l =>
    match g e.2 with
    | .error err => .error err
    | .ok y => collectFrom g (b.insert e.1 y) l

/-- Walk over a map in the given order and store what `g` makes of its values, beginning with
an empty map. -/
def collect (g : α → Except ε β) {m : GoMap κ α} (v : Visit m) : Except ε (GoMap κ β) :=
  collectFrom g ∅ v.entries

/-- Without a failure the walk comes to its end. -/
theorem exists_collectFrom {l : List ((_ : κ) × α)} :
    ∀ {b : GoMap κ β}, (∀ e ∈ l, ∃ y, g e.2 = .ok y) → ∃ m', collectFrom g b l = .ok m' := by
  induction l with
  | nil => exact fun _ => ⟨_, rfl⟩
  | cons e l ih =>
    intro b h
    obtain ⟨y, hy⟩ := h e (List.mem_cons_self ..)
    rw [collectFrom, hy]
    exact ih fun e' he' => h e' (List.mem_cons_of_mem _ he')

/-- What a walk that came to its end has stored: under a key of the list what `g` makes of its
value, under any other key what was there before. -/
theorem lookup_collectFrom {k : κ} {l : List ((_ : κ) × α)} :
    ∀ {b m' : GoMap κ β}, l.NodupKeys → collectFrom g b l = .ok m' →
      (∀ a, l.dlookup k = some a → ∃ y, g a = .ok y ∧ m'.lookup k = some y) ∧
      (l.dlookup k = none → m'.lookup k = b.lookup k) := by
  induction l with
  | nil =>
    intro b m' _ h
    cases h
    exact ⟨fun a ha => by simp at ha, fun _ => rfl⟩
  | cons e l ih =>
    intro b m' hnd h
    obtain ⟨hnot, hnd'⟩ := List.nodupKeys_cons.mp hnd
    rw [collectFrom] at h
    cases hg : g e.2 with
    | error err =>
      rw [hg] at h
      cases h
    | ok y =>
      rw [hg] at h
      obtain ⟨hfound, hother⟩ := ih hnd' h
      by_cases hk : k = e.1
      · -- the key does not come again, so what was stored now stays
        subst hk
        have hnone : l.dlookup e.1 = none := List.dlookup_eq_none.mpr hnot
        rw [List.dlookup_cons_eq]
        refine ⟨?_, fun hcontra => by cases hcontra⟩
        intro a ha
        obtain rfl := Option.some.inj ha
        exact ⟨y, hg, (hother hnone).trans (AList.lookup_insert _)⟩
      · rw [List.dlookup_cons_ne _ _ hk]
        refine ⟨hfound, ?_⟩
        intro hnone
        rw [hother hnone, AList.lookup_insert_ne hk]

/-- **The order of the walk does not matter** for what is stored: key by key the result holds
what `g` makes of the walked map, and no further keys. -/
theorem lookup_collect {m : GoMap κ α} {v : Visit m} {m' : GoMap κ β} (h : collect g v = .ok m')
    (k : κ) :
    (∀ a, m.lookup k = some a → ∃ y, g a = .ok y ∧ m'.lookup k = some y) ∧
      (m.lookup k = none → m'.lookup k = none) := by
  have hnd : v.entries.NodupKeys := (List.perm_nodupKeys v.perm).mpr m.nodupKeys
  have hsame : v.entries.dlookup k = m.lookup k := List.perm_dlookup k hnd v.perm
  obtain ⟨hfound, hnone⟩ := lookup_collectFrom (k := k) hnd h
  rw [hsame] at hfound hnone
  exact ⟨hfound, fun hk => (hnone hk).trans (AList.lookup_empty k)⟩

/-- A walk fails only over a value of the map, so a map whose values all pass is collected in
every order. -/
theorem exists_collect {m : GoMap κ α} (v : Visit m)
    (h : ∀ k a, m.lookup k = some a → ∃ y, g a = .ok y) : ∃ m', collect g v = .ok m' := by
  apply exists_collectFrom
  intro e he
  exact h e.1 e.2 (AList.mem_lookup_iff.mpr (v.perm.mem_iff.mp he))

end GoMap
