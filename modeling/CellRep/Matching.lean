import CellRep.Resources

/-!
# Tags and drivers

A cell is considered for a piece of work only if its placement tags and its volume
drivers match. The code decides this with sets that are built, united and walked over,
and with two nested loops. The answers are conditions on what occurs in the lists, so
neither order nor repetition matters, nor the orders of the walks.
-/

namespace CellRep

/-! ## Lists up to order and repetition

Tags and drivers are configured as lists, in whatever order the operator wrote them down. The
relation allows what ought to make no difference: another order, and an entry written down
once more. -/

/-- One list comes from the other by permuting entries and repeating them. It is generated by
single moves, so what is invariant under the moves is invariant under all of it. -/
inductive Rearranged {α : Type} : List α → List α → Prop where
  | perm {l l' : List α} : l.Perm l' → Rearranged l l'
  | duplicate {a : α} {l : List α} : a ∈ l → Rearranged l (a :: l)
  | trans {l₁ l₂ l₃ : List α} : Rearranged l₁ l₂ → Rearranged l₂ l₃ → Rearranged l₁ l₃

/-- The same entries occur in both, by induction on the moves. -/
theorem Rearranged.mem_iff {α : Type} {l l' : List α} (h : Rearranged l l') (a : α) :
    a ∈ l ↔ a ∈ l' := by
  induction h with
  | perm hperm => exact hperm.mem_iff
  | duplicate hmem =>
    refine ⟨List.mem_cons_of_mem _, ?_⟩
    intro ha
    rcases List.mem_cons.mp ha with rfl | ha
    · exact hmem
    · exact ha
  | trans _ _ ih₁ ih₂ => exact ih₁.trans ih₂

/-! ## Tag sets

The sets are Go maps without values. Membership in what an operation builds is stated in terms
of membership in what it was built from, and the walks drop out. -/

namespace PlacementTagSet

/-- The set of a slice has the slice's tags. -/
theorem mem_toSet {tag : String} {slice : List String} : tag ∈ toSet slice ↔ tag ∈ slice := by
  rw [toSet, GoMap.mem_putAll_empty]
  refine ⟨?_, fun h => ⟨tag, h, rfl⟩⟩
  rintro ⟨tag', hmem, rfl⟩
  exact hmem

/-- The union does not depend on the walks: it has what either set has. -/
theorem mem_union {set other : PlacementTagSet} (walk : GoMap.Visit set)
    (otherWalk : GoMap.Visit other) {tag : String} :
    tag ∈ union walk otherWalk ↔ tag ∈ set ∨ tag ∈ other := by
  rw [union, GoMap.mem_putAll, GoMap.mem_putAll_empty, ← walk.mem_iff, ← otherWalk.mem_iff]

/-- The loop stops at the first entry that is missing, so it answers yes only at the end. -/
theorem isSubsetLoop_iff {other : PlacementTagSet} {entries : List ((_ : String) × Unit)} :
    isSubsetLoop other entries = true ↔ ∀ entry ∈ entries, entry.1 ∈ other := by
  induction entries with
  | nil => simp [isSubsetLoop]
  | cons entry entries ih =>
    rw [isSubsetLoop, List.forall_mem_cons, ← ih]
    by_cases hmem : entry.1 ∈ other
    · rw [if_neg]
      · exact ⟨fun h => ⟨hmem, h⟩, fun h => h.2⟩
      · rw [Option.isNone_iff_eq_none, AList.lookup_eq_none]
        exact not_not_intro hmem
    · rw [if_pos]
      · exact ⟨nofun, fun h => absurd h.1 hmem⟩
      · rw [Option.isNone_iff_eq_none, AList.lookup_eq_none]
        exact hmem

/-- Nor does the question of a subset depend on the walk, though the entry at which the loop
stops does. -/
theorem isSubset_iff {set other : PlacementTagSet} (walk : GoMap.Visit set) :
    isSubset walk other = true ↔ ∀ tag ∈ set, tag ∈ other := by
  rw [isSubset, isSubsetLoop_iff]
  refine ⟨?_, ?_⟩
  · intro h tag htag
    obtain ⟨entry, hentry, rfl⟩ := walk.mem_iff.mp htag
    exact h entry hentry
  · intro h entry hentry
    exact h entry.1 (walk.mem_iff.mpr ⟨entry, hentry, rfl⟩)

end PlacementTagSet

/-! ## The two questions

Each of the two functions is reduced to a statement about membership in the lists it reads. -/

section

variable {c : CellState}

/-- What the cell requires is wanted, and what is wanted the cell has, as required or as
optional. -/
theorem matchPlacementTags_iff {walks : TagWalks} {desired : List String} :
    c.matchPlacementTags walks desired = true ↔ (∀ tag ∈ c.placementTags, tag ∈ desired) ∧
      ∀ tag ∈ desired, tag ∈ c.placementTags ∨ tag ∈ c.optionalPlacementTags := by
  rw [CellState.matchPlacementTags, Bool.and_eq_true, PlacementTagSet.isSubset_iff,
    PlacementTagSet.isSubset_iff]
  simp only [PlacementTagSet.mem_union, PlacementTagSet.mem_toSet]

/-- The inner loop looks for one driver and stops when it has found it. -/
theorem hasVolumeDriver_iff {requested : String} {drivers : List String} :
    CellState.hasVolumeDriver requested drivers = true ↔ requested ∈ drivers := by
  induction drivers with
  | nil => simp [CellState.hasVolumeDriver]
  | cons driver drivers ih =>
    rw [CellState.hasVolumeDriver, List.mem_cons, ← ih]
    by_cases heq : requested = driver
    · rw [if_pos heq]
      exact ⟨fun _ => .inl heq, fun _ => rfl⟩
    · rw [if_neg heq]
      exact ⟨.inr, fun h => h.resolve_left heq⟩

/-- What is requested the cell has; the outer loop stops at the first driver that is missing. -/
theorem matchVolumeDrivers_iff {drivers : List String} :
    c.matchVolumeDrivers drivers = true ↔ ∀ driver ∈ drivers, driver ∈ c.volumeDrivers := by
  rw [CellState.matchVolumeDrivers]
  induction drivers with
  | nil => simp [CellState.matchVolumeDriversLoop]
  | cons driver drivers ih =>
    rw [CellState.matchVolumeDriversLoop, List.forall_mem_cons, ← ih, ← hasVolumeDriver_iff]
    cases CellState.hasVolumeDriver driver c.volumeDrivers with
    | true => exact ⟨fun h => ⟨rfl, h⟩, fun h => h.2⟩
    | false => exact ⟨nofun, fun h => nomatch h.1⟩

end

/-- **Matching is a condition on what occurs in the lists.** Tags match exactly if every
required one is desired and every desired one is required or optional; drivers match
exactly if every requested one is there. Rearranging any of the lists changes no answer,
and an optional tag or a driver more costs no match. -/
theorem matching_is_exact (c : CellState) :
    (∀ walks desired, c.matchPlacementTags walks desired = true ↔
      (∀ tag ∈ c.placementTags, tag ∈ desired) ∧
      ∀ tag ∈ desired, tag ∈ c.placementTags ∨ tag ∈ c.optionalPlacementTags) ∧
    (∀ drivers, c.matchVolumeDrivers drivers = true ↔
      ∀ driver ∈ drivers, driver ∈ c.volumeDrivers) ∧
    (∀ (c' : CellState) (desired desired' : List String) (walks walks' : TagWalks),
      Rearranged c.placementTags c'.placementTags →
      Rearranged c.optionalPlacementTags c'.optionalPlacementTags → Rearranged desired desired' →
        c'.matchPlacementTags walks' desired' = c.matchPlacementTags walks desired) ∧
    (∀ (c' : CellState) (drivers drivers' : List String),
      Rearranged c.volumeDrivers c'.volumeDrivers → Rearranged drivers drivers' →
        c'.matchVolumeDrivers drivers' = c.matchVolumeDrivers drivers) ∧
    (∀ (before after desired : List String) (tag : String) (walks walks' : TagWalks),
      c.optionalPlacementTags = before ++ after → c.matchPlacementTags walks desired = true →
        CellState.matchPlacementTags walks'
          { c with optionalPlacementTags := before ++ tag :: after } desired = true) ∧
    ∀ (before after drivers : List String) (driver : String),
      c.volumeDrivers = before ++ after → c.matchVolumeDrivers drivers = true →
        CellState.matchVolumeDrivers
          { c with volumeDrivers := before ++ driver :: after } drivers = true := by
  refine ⟨fun _ _ => matchPlacementTags_iff, fun _ => matchVolumeDrivers_iff, ?_, ?_, ?_, ?_⟩
  · intro c' desired desired' walks walks' hrequired hoptional hdesired
    rw [Bool.eq_iff_iff, matchPlacementTags_iff, matchPlacementTags_iff]
    simp only [hrequired.mem_iff, hoptional.mem_iff, hdesired.mem_iff]
  · intro c' drivers drivers' hactual hrequested
    rw [Bool.eq_iff_iff, matchVolumeDrivers_iff, matchVolumeDrivers_iff]
    simp only [hactual.mem_iff, hrequested.mem_iff]
  · -- an optional tag is only ever asked for on the right of the disjunction
    intro before after desired tag walks walks' hsplit hmatch
    obtain ⟨hrequired, hdesired⟩ := matchPlacementTags_iff.mp hmatch
    refine matchPlacementTags_iff.mpr ⟨hrequired, ?_⟩
    intro tag' htag'
    refine (hdesired tag' htag').imp_right ?_
    rw [hsplit]
    exact fun hmem => List.perm_middle.mem_iff.mpr (List.mem_cons_of_mem tag hmem)
  · intro before after drivers driver hsplit hmatch
    refine matchVolumeDrivers_iff.mpr ?_
    intro driver' hdriver'
    have hmem := matchVolumeDrivers_iff.mp hmatch driver' hdriver'
    rw [hsplit] at hmem
    exact List.perm_middle.mem_iff.mpr (List.mem_cons_of_mem driver hmem)

end CellRep
