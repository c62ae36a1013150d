import CellRep.Resources
import Mathlib.Algebra.BigOperators.Group.List.Basic
import Mathlib.Algebra.GroupWithZero.Nat
import Mathlib.Algebra.Ring.Int.Defs

/-!
# Placing only what fits

Between two states of a cell the auctioneer places work on its copy: it asks
`resourceMatch` and, when nothing is missing, adds the work with `addLRP` or
`addTask`. The check and the update are separate functions over machine integers.
Here a whole auction round is run (`admitAll`), and the copy is accounted for in
mathematical integers: what is available never falls below zero, no subtraction
wraps, and what is gone is what was admitted.
-/

namespace CellRep

/-! ## A round of placements

The loop over the work belongs to the auctioneer and is not in this repository. It is written
down here as the plainest one that uses the two functions as they are meant to be used. -/

/-- Nothing is overdrawn. The counts are signed, so this is a property and not a matter of
types. -/
structure Resources.NonNegative (r : Resources) : Prop where
  memoryMB : 0 ≤ r.memoryMB
  diskMB : 0 ≤ r.diskMB
  containers : 0 ≤ r.containers

/-- Taking `res` off `r` is a subtraction of integers: the machine's subtraction, which wraps,
has not done so. -/
structure Resources.SubtractsExactly (r : Resources) (res : Resource) : Prop where
  memoryMB : (r.subtract res).memoryMB.toInt = r.memoryMB.toInt - res.memoryMB.toInt
  diskMB : (r.subtract res).diskMB.toInt = r.diskMB.toInt - res.diskMB.toInt
  containers : (r.subtract res).containers.toInt = r.containers.toInt - 1

/-- Go through the work in order and add what the check lets pass. Each check sees the
additions made before it. -/
def admitAll (c : CellState) : List Placement → CellState
  | [] => c
  | item :: items =>
    if (c.resourceMatch item.resource).isNone then admitAll (c.add item) items
    else admitAll c items

/-- The work that was added, in the order in which it was. -/
def admitted (c : CellState) : List Placement → List Placement
  | [] => []
  | item :: items =>
    if (c.resourceMatch item.resource).isNone then item :: admitted (c.add item) items
    else admitted c items

/-- The state after a round is the state with the admitted work added, without any checks.
What is known about `add` on lists applies to rounds through this. -/
theorem admitAll_eq (items : List Placement) :
    ∀ c : CellState, admitAll c items = (admitted c items).foldl CellState.add c := by
  induction items with
  | nil => exact fun _ => rfl
  | cons item items ih =>
    intro c
    by_cases hfit : (c.resourceMatch item.resource).isNone = true
    · rw [admitAll, admitted, if_pos hfit, if_pos hfit, List.foldl_cons, ih]
    · rw [admitAll, admitted, if_neg hfit, if_neg hfit, ih]

/-! ## One placement

The step of the round: what the check guarantees about the subtraction that follows it. -/

/-- The check finds nothing missing exactly when there is enough of everything. Sizes are not
compared with zero here; that is left to `valid`. -/
theorem resourceMatch_eq_none {c : CellState} {res : Resource} :
    c.resourceMatch res = none ↔ res.diskMB ≤ c.availableResources.diskMB ∧
      res.memoryMB ≤ c.availableResources.memoryMB ∧ 1 ≤ c.availableResources.containers := by
  rw [← Int32.not_lt, ← Int32.not_lt, ← Int64.not_lt, CellState.resourceMatch]
  by_cases hdisk : c.availableResources.diskMB < res.diskMB <;>
    by_cases hmem : c.availableResources.memoryMB < res.memoryMB <;>
    by_cases hcont : c.availableResources.containers < 1 <;>
    simp [hdisk, hmem, hcont, AList.insert, AList.keys, List.keys, List.kinsert]

/-- Work that fits is taken off exactly, and leaves nothing overdrawn. Negative sizes would
pass the check too, and could wrap. -/
theorem subtract_of_fits {c : CellState} {res : Resource} (hvalid : res.valid)
    (hfit : c.resourceMatch res = none) :
    c.availableResources.SubtractsExactly res ∧
      (c.availableResources.subtract res).NonNegative := by
  obtain ⟨hdisk, hmem⟩ := Resource.valid_iff.mp hvalid
  obtain ⟨hdisk', hmem', hcont⟩ := resourceMatch_eq_none.mp hfit
  refine ⟨⟨?_, ?_, ?_⟩, ⟨?_, ?_, ?_⟩⟩
  · exact Int32.toInt_sub_of_le _ _ hmem hmem'
  · exact Int32.toInt_sub_of_le _ _ hdisk hdisk'
  · exact Int64.toInt_sub_of_le _ _ (by decide) hcont
  · exact Int32.sub_nonneg_of_le hmem hmem'
  · exact Int32.sub_nonneg_of_le hdisk hdisk'
  · exact Int64.sub_nonneg_of_le (by decide) hcont

/-! ## The whole round

The step is iterated. Accounts are kept as integer equations, which add up without any thought
about wrapping. -/

/-- What is gone from `before` to `after` is what the items need, in integers. -/
structure Accounts (before after : Resources) (items : List Placement) : Prop where
  memoryMB : before.memoryMB.toInt =
    after.memoryMB.toInt + (items.map fun item => item.resource.memoryMB.toInt).sum
  diskMB : before.diskMB.toInt =
    after.diskMB.toInt + (items.map fun item => item.resource.diskMB.toInt).sum
  containers : before.containers.toInt = after.containers.toInt + items.length

/-- With nothing admitted nothing is gone. -/
theorem Accounts.nil (r : Resources) : Accounts r r [] := by
  refine ⟨?_, ?_, ?_⟩ <;> simp

/-- One more item in front: its share is gone first, exactly, and then that of the rest. -/
theorem Accounts.cons {r after : Resources} {item : Placement} {items : List Placement}
    (hexact : r.SubtractsExactly item.resource)
    (hrest : Accounts (r.subtract item.resource) after items) :
    Accounts r after (item :: items) := by
  have hmem := hexact.memoryMB
  have hdisk := hexact.diskMB
  have hcont := hexact.containers
  rw [hrest.memoryMB] at hmem
  rw [hrest.diskMB] at hdisk
  rw [hrest.containers] at hcont
  refine ⟨?_, ?_, ?_⟩
  · rw [List.map_cons, List.sum_cons]
    omega
  · rw [List.map_cons, List.sum_cons]
    omega
  · rw [List.length_cons]
    omega

/-- LRPs and tasks are taken off alike. -/
theorem availableResources_add (c : CellState) (item : Placement) :
    (c.add item).availableResources = c.availableResources.subtract item.resource := by
  cases item with
  | inl lrp => rfl
  | inr task => rfl

/-- Along a round nothing is overdrawn, and the copy stays accounted for. The induction is on
the work still to come, with the state general. -/
theorem admitAll_accounts {items : List Placement} :
    ∀ {c : CellState}, c.availableResources.NonNegative →
      (∀ item ∈ items, item.resource.valid) →
      (admitAll c items).availableResources.NonNegative ∧
      Accounts c.availableResources (admitAll c items).availableResources (admitted c items) := by
  induction items with
  | nil => exact fun hc _ => ⟨hc, .nil _⟩
  | cons item items ih =>
    intro c hc hvalid
    have hrest : ∀ item' ∈ items, item'.resource.valid := fun item' hmem =>
      hvalid item' (List.mem_cons_of_mem _ hmem)
    by_cases hfit : (c.resourceMatch item.resource).isNone = true
    · rw [admitAll, admitted, if_pos hfit, if_pos hfit]
      obtain ⟨hexact, hnonneg⟩ := subtract_of_fits (hvalid item (List.mem_cons_self ..))
        (Option.isNone_iff_eq_none.mp hfit)
      rw [← availableResources_add] at hnonneg
      obtain ⟨hnonneg', haccounts⟩ := ih hnonneg hrest
      rw [availableResources_add] at haccounts
      exact ⟨hnonneg', haccounts.cons hexact⟩
    · rw [admitAll, admitted, if_neg hfit, if_neg hfit]
      exact ih hc hrest

/-- A 64-bit count rises by `n` as an integer unless it passes the largest one. -/
theorem toInt_add_ofNat {count : Int64} {n : ℕ} (hn : (n : ℤ) < 2 ^ 63)
    (hsum : count.toInt + n < 2 ^ 63) : (count + Int64.ofNat n).toInt = count.toInt + n := by
  have hlow := count.le_toInt
  rw [Int64.toInt_add, Int64.toInt_ofNat_of_lt (by omega)]
  exact Int.bmod_eq_of_le (by omega) (by omega)

/-- The count of starting containers rises by the number admitted, in machine arithmetic. -/
theorem startingContainerCount_admitAll (c : CellState) (items : List Placement) :
    (admitAll c items).startingContainerCount =
      c.startingContainerCount + Int64.ofNat (admitted c items).length := by
  rw [admitAll_eq, addAll_eq]

/-- The count of starting containers rises so as an integer too, unless it passes the largest
one. The number admitted is itself no problem, being bounded by the containers there were. -/
theorem toInt_startingContainerCount_admitAll {c : CellState} {items : List Placement}
    (hc : c.availableResources.NonNegative) (hvalid : ∀ item ∈ items, item.resource.valid)
    (hsum : c.startingContainerCount.toInt + (admitted c items).length < 2 ^ 63) :
    (admitAll c items).startingContainerCount.toInt =
      c.startingContainerCount.toInt + (admitted c items).length := by
  obtain ⟨hnonneg, haccounts⟩ := admitAll_accounts hc hvalid
  -- no more is admitted than there were containers
  have hleft := Int64.le_iff_toInt_le.mp hnonneg.containers
  have hfirst := c.availableResources.containers.toInt_lt
  have hfell := haccounts.containers
  rw [Int64.toInt_zero] at hleft
  rw [startingContainerCount_admitAll]
  exact toInt_add_ofNat (by omega) hsum

/-- **Guarded placement never over-commits.** From a state with nothing overdrawn, and
for work of non-negative size in any order and mix, after any number of placements:
nothing is overdrawn; every placement was a subtraction of integers; what was
available at first is what is available now and what was admitted; containers fell and
starting containers rose by the number admitted (as an integer too, unless that count
passes the largest 64-bit one); the lists grew by the admitted work in order; and
nothing else changed. -/
theorem admission_never_overcommits (c : CellState) (items : List Placement)
    (hc : c.availableResources.NonNegative) (hvalid : ∀ item ∈ items, item.resource.valid) :
    (admitAll c items).availableResources.NonNegative ∧
    (∀ before item after, items = before ++ item :: after →
      (admitAll c before).resourceMatch item.resource = none →
      (admitAll c before).availableResources.SubtractsExactly item.resource) ∧
    Accounts c.availableResources (admitAll c items).availableResources (admitted c items) ∧
    (admitAll c items).startingContainerCount =
      c.startingContainerCount + Int64.ofNat (admitted c items).length ∧
    (c.startingContainerCount.toInt + (admitted c items).length < 2 ^ 63 →
      (admitAll c items).startingContainerCount.toInt =
        c.startingContainerCount.toInt + (admitted c items).length) ∧
    (admitAll c items).lrps = c.lrps ++ (admitted c items).filterMap Sum.getLeft? ∧
    (admitAll c items).tasks = c.tasks ++ (admitted c items).filterMap Sum.getRight? ∧
    { admitAll c items with
      availableResources := c.availableResources
      startingContainerCount := c.startingContainerCount
      lrps := c.lrps
      tasks := c.tasks } = c := by
  obtain ⟨hnonneg, haccounts⟩ := admitAll_accounts hc hvalid
  refine ⟨hnonneg, ?_, haccounts, startingContainerCount_admitAll c items,
    toInt_startingContainerCount_admitAll hc hvalid, ?_⟩
  · -- what is there when the item comes is what the items before have left
    rintro before item after rfl hfit
    exact (subtract_of_fits (hvalid item (by simp)) hfit).1
  · rw [admitAll_eq, addAll_eq]
    exact ⟨rfl, rfl, rfl⟩

/-! ### A concrete round

Three pieces of work for a cell with room for two containers, of which the first one takes all
the memory. -/

/-- A cell with room for two containers and all the memory a 32-bit count can hold, so that a
wrong order of check and update would wrap. -/
def sampleRoom : CellState where
  rootFSProviders := ∅
  availableResources := ⟨Int32.maxValue, 64, 2⟩
  totalResources := ⟨Int32.maxValue, 64, 2⟩
  lrps := []
  tasks := []
  startingContainerCount := 0
  zone := "zone"
  evacuating := false
  volumeDrivers := []
  placementTags := []
  optionalPlacementTags := []

/-- An LRP that takes all the memory, a task that no longer fits, and one that does. -/
def sampleRound : List Placement :=
  [.inl ⟨⟨"process", 0, "domain"⟩, ⟨[], [], ""⟩, ⟨Int32.maxValue, 32, 10⟩⟩,
    .inr ⟨"large", "domain", ⟨[], [], ""⟩, ⟨1, 0, 10⟩⟩,
    .inr ⟨"small", "domain", ⟨[], [], ""⟩, ⟨0, 32, 10⟩⟩]

/-- Two of the three are admitted, up to the last megabyte. -/
theorem sampleRound_never_overcommits : (admitted sampleRoom sampleRound).length = 2 ∧
    (admitAll sampleRoom sampleRound).availableResources = ⟨0, 0, 0⟩ ∧
    Accounts sampleRoom.availableResources (admitAll sampleRoom sampleRound).availableResources
      (admitted sampleRoom sampleRound) := by
  refine ⟨by decide, by decide, ?_⟩
  have hround := admission_never_overcommits sampleRoom sampleRound
    ⟨by decide, by decide, by decide⟩ (by decide)
  exact hround.2.2.1

/-! ## What is missing

When the check fails it says why. The reasons are collected in a map, which has no order, and
are sorted before they are put into words. -/

/-- What there is too little of, in alphabetical order. This is the specification; the code
inserts them into a map in another order. -/
def CellState.shortages (c : CellState) (res : Resource) : List String :=
  (if c.availableResources.containers < 1 then ["containers"] else []) ++
    (if c.availableResources.diskMB < res.diskMB then ["disk"] else []) ++
    (if c.availableResources.memoryMB < res.memoryMB then ["memory"] else [])

/-- The shortages are in alphabetical order, whichever of the three are among them. -/
theorem shortages_sorted {c : CellState} {res : Resource} :
    (c.shortages res).Pairwise (· ≤ ·) := by
  rw [CellState.shortages]
  split <;> split <;> split <;> decide

/-- The problems are those, in some order, and there is at least one. -/
theorem resourceMatch_eq_some {c : CellState} {res : Resource} {err : InsufficientResourcesError}
    (h : c.resourceMatch res = some err) :
    err.problems.keys ≠ [] ∧ err.problems.keys.Perm (c.shortages res) := by
  rw [CellState.resourceMatch] at h
  rw [CellState.shortages]
  by_cases hdisk : c.availableResources.diskMB < res.diskMB <;>
    by_cases hmemory : c.availableResources.memoryMB < res.memoryMB <;>
    by_cases hcontainers : c.availableResources.containers < 1 <;>
    simp only [hdisk, hmemory, hcontainers, if_true, if_false] at h ⊢ <;>
    cases h <;> decide

/-- **A refusal says what is missing**: all of it, in alphabetical order, in whatever order the
problems are walked over. -/
theorem refusal_names_what_is_missing (c : CellState) (res : Resource)
    (err : InsufficientResourcesError) (walk : GoMap.Visit err.problems)
    (h : c.resourceMatch res = some err) :
    err.error walk = "insufficient resources: " ++ ", ".intercalate (c.shortages res) := by
  obtain ⟨hne, hperm⟩ := resourceMatch_eq_some h
  rw [InsufficientResourcesError.error, if_neg (mt List.length_eq_zero_iff.mp hne),
    walk.mergeSort_keys hperm shortages_sorted]

/-- A cell without room for containers, asked for too much disk as well. -/
def sampleFull : CellState := { sampleRoom with availableResources := ⟨8, 64, 0⟩ }

/-- Two things are missing, and the message names both. -/
theorem sampleFull_names_what_is_missing :
    ∃ err, sampleFull.resourceMatch ⟨8, 65, 10⟩ = some err ∧
      ∀ walk, err.error walk = "insufficient resources: containers, disk" := by
  have h : sampleFull.resourceMatch ⟨8, 65, 10⟩ =
      some ⟨AList.insert "containers" () (AList.insert "disk" () ∅)⟩ := rfl
  refine ⟨_, h, fun walk => ?_⟩
  rw [refusal_names_what_is_missing sampleFull _ _ walk h]
  decide

end CellRep
