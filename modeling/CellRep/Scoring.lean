import CellRep.Admission
import Mathlib.Algebra.Order.BigOperators.Group.List
import Mathlib.Algebra.Order.Field.Rat
import Mathlib.Tactic.Linarith
import Mathlib.Tactic.Ring

/-!
# Worst fit spreads, best fit packs

The auctioneer ranks cells by a score (`scoring.go`). Either score looks at what would
remain on the cell after one more placement; the worst-fit score rises and the best-fit
score falls as the cell fills, so that the one spreads work over cells and the other
packs it. Scores are floating-point numbers in the source and exact fractions here.

A score function is handed a pointer to the cell's state and works on a copy of what is
available. That it leaves the state alone is a statement about the pair of both, so each
function is run in a `Frame` with the two, and returns the state with the score.
-/

namespace CellRep

/-! ## The scores

The functions are written with their variables in a frame, because two of them are handed a
pointer and one a value. The two that are handed a pointer return the state behind it. -/

/-- `Resources.Copy`: a value copy, so that a subtraction from it leaves the original alone. -/
def Resources.copy (r : Resources) : Resources := r

/-- `Resources.ComputeScore`: the mean of the fractions that are used. -/
def Resources.computeScore (r total : Resources) : ℚ :=
  let fractionUsedMemory := 1 - (r.memoryMB.toInt : ℚ) / total.memoryMB.toInt
  let fractionUsedDisk := 1 - (r.diskMB.toInt : ℚ) / total.diskMB.toInt
  let fractionUsedContainers := 1 - (r.containers.toInt : ℚ) / total.containers.toInt
  (fractionUsedMemory + fractionUsedDisk + fractionUsedContainers) / 3

/-- The variables of a score function: the state it has a pointer to, and a local one. -/
structure Frame where
  c : CellState
  remainingResources : Resources

/-- Where a pointer to `Resources` can point: into the state, or at the local variable. -/
inductive ResourcesPtr : Type where
  | availableResources : ResourcesPtr
  | remainingResources : ResourcesPtr

/-- `Subtract` through a pointer. Which of the two it changes is decided by the pointer alone. -/
def Frame.subtract (frame : Frame) (res : Resource) : ResourcesPtr → Frame
  | .availableResources =>
    { frame with c.availableResources := frame.c.availableResources.subtract res }
  | .remainingResources =>
    { frame with remainingResources := frame.remainingResources.subtract res }

/-- How each score function begins: take the work off a copy of what is available. -/
def Frame.withoutWork (c : CellState) (res : Resource) : Frame :=
  let frame : Frame := { c := c, remainingResources := c.availableResources.copy }
  frame.subtract res .remainingResources

/-- `ScoreFunc`: the score, and the state behind the pointer afterwards. -/
abbrev ScoreFunc : Type := CellState → Resource → ℚ → ℚ × CellState

/-- `computeScore`, the worst-fit score. -/
def computeScore : ScoreFunc := fun c res startingContainerWeight =>
  let frame := Frame.withoutWork c res
  let startingContainerScore := frame.c.startingContainerCount.toInt * startingContainerWeight
  (frame.remainingResources.computeScore frame.c.totalResources + startingContainerScore, frame.c)

/-- `CellState.ComputeScore`. It has a state of its own, which is gone when it returns. -/
def CellState.computeScore (c : CellState) (res : Resource) (startingContainerWeight : ℚ) : ℚ :=
  let frame := Frame.withoutWork c res
  let startingContainerScore := frame.c.startingContainerCount.toInt * startingContainerWeight
  frame.remainingResources.computeScore frame.c.totalResources + startingContainerScore

/-- `bestFit`. Containers count three times, and the weight not at all. -/
def bestFit : ScoreFunc := fun c res _ =>
  let total := c.totalResources
  let frame := Frame.withoutWork c res
  let remaining := frame.remainingResources
  let fractionUsedMemory := (remaining.memoryMB.toInt : ℚ) / total.memoryMB.toInt
  let fractionUsedDisk := (remaining.diskMB.toInt : ℚ) / total.diskMB.toInt
  let fractionUsedContainers := (remaining.containers.toInt : ℚ) / total.containers.toInt * 3
  ((fractionUsedMemory + fractionUsedDisk + fractionUsedContainers) / 5, frame.c)

/-- `ScoreType`; its function may be nil, as long as no fashion was applied. -/
structure ScoreType where
  compute : Option ScoreFunc

/-- `NewScoreType`, which applies a fashion to an empty score type. -/
def newScoreType (f : ScoreType → ScoreType) : ScoreType := f ⟨none⟩

/-- `BestFitFashion`: the score by which cells are packed. -/
def bestFitFashion (st : ScoreType) : ScoreType := { st with compute := some bestFit }

/-- `WorstFitFashion`: the score by which work is spread. -/
def worstFitFashion (st : ScoreType) : ScoreType := { st with compute := some computeScore }

/-! ## Shares of what is left

Both scores are affine in one quantity, the share of the total that would be left; the one
falls with it and the other rises. The share itself is monotone in what is left. -/

/-- There is some of everything. Totals have to be positive, or the fractions say nothing. -/
structure Resources.Positive (r : Resources) : Prop where
  memoryMB : 0 < r.memoryMB
  diskMB : 0 < r.diskMB
  containers : 0 < r.containers

/-- There is no more memory and disk, and fewer containers. The strict inequality is in the
containers, because work may need neither memory nor disk. -/
structure Resources.Below (r r' : Resources) : Prop where
  memoryMB : r.memoryMB.toInt ≤ r'.memoryMB.toInt
  diskMB : r.diskMB.toInt ≤ r'.diskMB.toInt
  containers : r.containers.toInt < r'.containers.toInt

/-- What is left as a share of the total, with containers counted `weight` times. -/
def Resources.share (weight : ℚ) (r total : Resources) : ℚ :=
  (r.memoryMB.toInt : ℚ) / total.memoryMB.toInt + (r.diskMB.toInt : ℚ) / total.diskMB.toInt +
    (r.containers.toInt : ℚ) / total.containers.toInt * weight

variable {r r' total : Resources} {res : Resource}

/-- The share falls with what is left, strictly because of the containers. -/
theorem Resources.Below.share_lt {weight : ℚ} (h : r.Below r') (htotal : total.Positive)
    (hweight : 0 < weight) : r.share weight total < r'.share weight total := by
  have hmem : (0 : ℚ) < total.memoryMB.toInt := by
    exact_mod_cast Int32.lt_iff_toInt_lt.mp htotal.memoryMB
  have hdisk : (0 : ℚ) < total.diskMB.toInt := by
    exact_mod_cast Int32.lt_iff_toInt_lt.mp htotal.diskMB
  have hcont : (0 : ℚ) < total.containers.toInt := by
    exact_mod_cast Int64.lt_iff_toInt_lt.mp htotal.containers
  refine add_lt_add_of_le_of_lt (add_le_add ?_ ?_) ?_
  · exact div_le_div_of_nonneg_right (by exact_mod_cast h.memoryMB) hmem.le
  · exact div_le_div_of_nonneg_right (by exact_mod_cast h.diskMB) hdisk.le
  · refine mul_lt_mul_of_pos_right ?_ hweight
    exact div_lt_div_of_pos_right (by exact_mod_cast h.containers) hcont

/-- Between two numbers that are not negative no difference wraps, though it may be negative. -/
theorem toInt_sub_of_nonneg {a b : Int32} (ha : 0 ≤ a) (hb : 0 ≤ b) :
    (a - b).toInt = a.toInt - b.toInt := by
  have ha' := Int32.le_iff_toInt_le.mp ha
  have hb' := Int32.le_iff_toInt_le.mp hb
  have hlt := a.toInt_lt
  have hlt' := b.toInt_lt
  rw [Int32.toInt_zero] at ha' hb'
  rw [Int32.toInt_sub]
  exact Int.bmod_eq_of_le (by omega) (by omega)

/-- Nothing wraps when valid work is taken off what is not overdrawn, whether or not
there is enough. -/
theorem Resources.NonNegative.subtractsExactly (h : r.NonNegative) (hvalid : res.valid) :
    r.SubtractsExactly res := by
  obtain ⟨hdisk, hmem⟩ := Resource.valid_iff.mp hvalid
  refine ⟨toInt_sub_of_nonneg h.memoryMB hmem, toInt_sub_of_nonneg h.diskMB hdisk, ?_⟩
  have hcont := Int64.le_iff_toInt_le.mp h.containers
  have hlt := r.containers.toInt_lt
  rw [Int64.toInt_zero] at hcont
  rw [Resources.subtract, Int64.toInt_sub, Int64.toInt_one]
  exact Int.bmod_eq_of_le (by omega) (by omega)

/-- Taking the same work off both sides changes nothing about which has less. -/
theorem Resources.Below.subtract (h : r.Below r') (hr : r.SubtractsExactly res)
    (hr' : r'.SubtractsExactly res) : (r.subtract res).Below (r'.subtract res) := by
  refine ⟨?_, ?_, ?_⟩
  · rw [hr.memoryMB, hr'.memoryMB]
    exact Int.sub_le_sub_right h.memoryMB _
  · rw [hr.diskMB, hr'.diskMB]
    exact Int.sub_le_sub_right h.diskMB _
  · rw [hr.containers, hr'.containers]
    exact Int.sub_lt_sub_right h.containers _

/-- What items need of one kind adds up to no less than nothing, if they are valid. -/
theorem sum_toInt_nonneg {items : List Placement} (need : Resource → Int32)
    (h : ∀ item ∈ items, 0 ≤ need item.resource) :
    0 ≤ (items.map fun item => (need item.resource).toInt).sum := by
  refine List.sum_nonneg ?_
  intro n hn
  obtain ⟨item, hitem, rfl⟩ := List.mem_map.mp hn
  exact Int32.le_iff_toInt_le.mp (h item hitem)

/-- Placed work leaves less, and one container less for each item. -/
theorem Accounts.below {items : List Placement} (h : Accounts r' r items) (hne : items ≠ [])
    (hvalid : ∀ item ∈ items, item.resource.valid) : r.Below r' := by
  have hmem := sum_toInt_nonneg Resource.memoryMB fun item hitem =>
    (Resource.valid_iff.mp (hvalid item hitem)).2
  have hdisk := sum_toInt_nonneg Resource.diskMB fun item hitem =>
    (Resource.valid_iff.mp (hvalid item hitem)).1
  have hlength : 0 < items.length := List.length_pos_iff.mpr hne
  refine ⟨?_, ?_, ?_⟩
  · rw [h.memoryMB]
    exact Int.le_add_of_nonneg_right hmem
  · rw [h.diskMB]
    exact Int.le_add_of_nonneg_right hdisk
  · rw [h.containers]
    exact Int.lt_add_of_pos_right _ (Int.natCast_pos.mpr hlength)

/-! ## What the scores do

The scores in terms of the share, and then the comparison of a cell before and after. -/

/-- Only the copy is changed; the state in the frame is the one that was handed in. -/
theorem Frame.withoutWork_eq (c : CellState) (res : Resource) :
    Frame.withoutWork c res = ⟨c, c.availableResources.subtract res⟩ := rfl

/-- The worst-fit score counts against the share that would be left. -/
theorem computeScore_eq (c : CellState) (res : Resource) (weight : ℚ) :
    computeScore c res weight =
      (1 - (c.availableResources.subtract res).share 1 c.totalResources / 3 +
        c.startingContainerCount.toInt * weight, c) := by
  rw [computeScore, Frame.withoutWork_eq]
  refine Prod.ext ?_ rfl
  rw [Resources.computeScore, Resources.share]
  ring

/-- The best-fit score is that share, with more weight on containers. -/
theorem bestFit_eq (c : CellState) (res : Resource) (weight : ℚ) :
    bestFit c res weight =
      ((c.availableResources.subtract res).share 3 c.totalResources / 5, c) := rfl

/-- What the starting containers add to the worst-fit score does not fall, as long as their
count does not wrap. -/
theorem startingContainerScore_le {c : CellState} {items : List Placement} {weight : ℚ}
    (hc : c.availableResources.NonNegative) (hvalid : ∀ item ∈ items, item.resource.valid)
    (hweight : 0 ≤ weight)
    (hsum : weight = 0 ∨ c.startingContainerCount.toInt + (admitted c items).length < 2 ^ 63) :
    (c.startingContainerCount.toInt : ℚ) * weight ≤
      (admitAll c items).startingContainerCount.toInt * weight := by
  rcases hsum with rfl | hsum
  · rw [mul_zero, mul_zero]
  · refine mul_le_mul_of_nonneg_right ?_ hweight
    rw [toInt_startingContainerCount_admitAll hc hvalid hsum]
    exact_mod_cast Int.le_add_of_nonneg_right (Int.natCast_nonneg _)

/-- **Worst fit spreads and best fit packs.** After any number of admitted placements,
one at least, the worst-fit score of any valid work is greater, as long as the count of
starting containers does not pass the largest 64-bit one or does not matter; the
best-fit score is smaller in any case; and no score function changes the state it is
given. -/
theorem worst_fit_spreads_best_fit_packs (c : CellState) (items : List Placement)
    (res : Resource) (weight : ℚ) (htotal : c.totalResources.Positive)
    (hc : c.availableResources.NonNegative) (hweight : 0 ≤ weight) (hres : res.valid)
    (hne : items ≠ []) (hvalid : ∀ item ∈ items, item.resource.valid)
    (hadmitted : admitted c items = items) :
    (weight = 0 ∨ c.startingContainerCount.toInt + items.length < 2 ^ 63 →
      (computeScore c res weight).1 <
        (computeScore (items.foldl CellState.add c) res weight).1) ∧
    (bestFit (items.foldl CellState.add c) res weight).1 < (bestFit c res weight).1 ∧
    (∀ c' : CellState, (computeScore c' res weight).1 = c'.computeScore res weight ∧
      (computeScore c' res weight).2 = c' ∧ (bestFit c' res weight).2 = c') ∧
    (newScoreType worstFitFashion).compute = some computeScore ∧
    (newScoreType bestFitFashion).compute = some bestFit := by
  have hafter : items.foldl CellState.add c = admitAll c items := by
    rw [admitAll_eq, hadmitted]
  have htotal' : (admitAll c items).totalResources = c.totalResources := by
    rw [admitAll_eq, addAll_eq]
  obtain ⟨hnonneg, haccounts⟩ := admitAll_accounts hc hvalid
  rw [hadmitted] at haccounts
  -- less is left after the placements, also when the work in question is taken off
  have hbelow := (haccounts.below hne hvalid).subtract (hnonneg.subtractsExactly hres)
    (hc.subtractsExactly hres)
  rw [hafter, computeScore_eq, computeScore_eq, bestFit_eq, bestFit_eq, htotal']
  refine ⟨?_, ?_, fun c' => ⟨rfl, rfl, rfl⟩, rfl, rfl⟩
  · intro hsum
    rw [← hadmitted] at hsum
    have hshare := hbelow.share_lt htotal one_pos
    have hscore := startingContainerScore_le hc hvalid hweight hsum
    linarith
  · exact div_lt_div_of_pos_right (hbelow.share_lt htotal three_pos) (by norm_num)

/-- Work without any needs but its container. -/
def smallWork : Resource := ⟨0, 0, 0⟩

/-- A task that takes a quarter of the disk and nothing else. -/
def smallTask : Placement := .inr ⟨"small", "domain", ⟨[], [], ""⟩, ⟨0, 16, 10⟩⟩

/-- An LRP that takes half of the disk and some of the memory. -/
def smallLRP : Placement :=
  .inl ⟨⟨"process", 0, "domain"⟩, ⟨[], [], ""⟩, ⟨512, 32, 10⟩⟩

/-- With both placed, which takes both container slots of the cell, work that needs memory
and disk scores higher by worst fit and lower by best fit. -/
theorem smallRound_spreads_and_packs :
    (computeScore sampleRoom ⟨256, 8, 10⟩ (1 / 4)).1 <
      (computeScore ((sampleRoom.add smallLRP).add smallTask) ⟨256, 8, 10⟩ (1 / 4)).1 ∧
    (bestFit ((sampleRoom.add smallLRP).add smallTask) ⟨256, 8, 10⟩ (1 / 4)).1 <
      (bestFit sampleRoom ⟨256, 8, 10⟩ (1 / 4)).1 := by
  have h := worst_fit_spreads_best_fit_packs sampleRoom [smallLRP, smallTask] ⟨256, 8, 10⟩ (1 / 4)
    ⟨by decide, by decide, by decide⟩ ⟨by decide, by decide, by decide⟩ (by norm_num) (by decide)
    (by decide) (by decide) (by decide)
  exact ⟨h.1 (Or.inr (by decide)), h.2.1⟩

/-- The same cell after as many starting containers as can be counted. -/
def countedOut : CellState := { sampleRoom with startingContainerCount := Int64.maxValue }

/-- One more, and the count is as low as it can be: the score falls. -/
theorem wrappedCount_lowers_score : countedOut.totalResources.Positive ∧
    countedOut.availableResources.NonNegative ∧ smallWork.valid ∧
    smallTask.resource.valid ∧ admitted countedOut [smallTask] = [smallTask] ∧
    (computeScore (countedOut.add smallTask) smallWork 1).1 <
      (computeScore countedOut smallWork 1).1 := by
  refine ⟨⟨by decide, by decide, by decide⟩, ⟨by decide, by decide, by decide⟩, by decide,
    by decide, by decide, ?_⟩
  decide +kernel

end CellRep
