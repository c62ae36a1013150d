import CellRep.Batch
import Mathlib.Data.Set.Insert

/-!
# The two services the rep keeps in agreement

The executor has the containers, the BBS has the records of LRPs and tasks. `World` is what
both of them have of one cell, `effect` what the rep's calls do to it, and `answers` how the
calls are answered: the executor does what it is told, and the BBS refuses a call only with
the error that says why. Nothing but the rep's own calls happens meanwhile, and the cell does
not evacuate.

An operation is about one guid. What it can do is said once for each call (`Change`), and
what any number of operations can do follows from that (`Evolved`). So they keep the rules
the services go by (`Sound`).
-/

namespace CellRep

open Models (ActualLRP ActualLRPGroup ActualLRPKey ActualLRPInstanceKey ActualLRPNetInfo)
open Executor (Container)

/-- Where the BBS keeps the records of an LRP: under the process and the index, without the
domain. -/
abbrev RecordKey : Type := String × Int64

/-- The place of a key. Calls that carry a whole key and those that carry its parts meet here. -/
def recordKey (key : ActualLRPKey) : RecordKey := (key.processGuid, key.index.toInt64)

/-- A record that was claimed, or started with its net info. What has no instance is no record
here. -/
structure Record where
  instanceKey : ActualLRPInstanceKey
  netInfo : Option ActualLRPNetInfo

/-- The executor and the BBS, as far as one cell is concerned. -/
structure World where
  containers : Containers
  records : RecordKey → Option Record
  /-- the evacuating records -/
  evacuating : RecordKey → Option ActualLRPInstanceKey
  /-- the tasks that run on the cell -/
  tasks : Set String
  /-- the containers that were told to stop -/
  signalled : Set String

namespace World

variable (w : World) (k : RecordKey) (instanceKey : ActualLRPInstanceKey)

/-- The instance that has the record, whether it is claimed or running. -/
def holder : Option ActualLRPInstanceKey := (w.records k).map Record.instanceKey

/-- Change what is under a guid of the executor. -/
def setContainer (guid : String) (container : Option Container) : World :=
  { w with containers := Function.update w.containers guid container }

/-- Store a record, over whatever is there. -/
def put (record : Record) : World :=
  { w with records := Function.update w.records k (some record) }

/-- Take the record from the instance, if it has it. The record of another instance is left
alone. -/
def release : World :=
  { w with
    records := Function.update w.records k
      ((w.records k).filter fun record => record.instanceKey ≠ instanceKey) }

/-- Take the evacuating record from the instance, if it has it. That of another one is left
alone. -/
def releaseEvacuating : World :=
  { w with
    evacuating := Function.update w.evacuating k
      ((w.evacuating k).filter fun instanceKey' => instanceKey' ≠ instanceKey) }

end World

/-! ## Calls and answers

The two services as a specification: which answers are possible in a world, and which world
comes after an answered call. -/

/-- The groups hold exactly the records of the cell: nothing is missing, and nothing is made
up. -/
structure ListsRecords (cellID : String) (w : World) (groups : List ActualLRPGroup) : Prop where
  instances : ∀ k instanceKey, w.holder k = some instanceKey ∧ instanceKey.cellId = cellID ↔
    ∃ lrp ∈ instanceRecords groups, recordKey lrp.key = k ∧ lrp.instanceKey = instanceKey
  evacuating : ∀ k instanceKey, w.evacuating k = some instanceKey ∧ instanceKey.cellId = cellID ↔
    ∃ lrp ∈ evacuatingRecords groups, recordKey lrp.key = k ∧ lrp.instanceKey = instanceKey

/-- How the services answer. Listings that fail say nothing; calls of the BBS fail for the
reason the BBS has for it. -/
def answers (x : External) (w : World) (c : Call) (r : Reply c) : Prop :=
  match c, r with
  | .getContainer guid, r => r = (w.containers guid).elim (.error .containerNotFound) .ok
  | .listContainers, .ok cs =>
    ∀ guid container, w.containers guid = some container ↔ container ∈ cs ∧ container.guid = guid
  | .actualLRPGroups cellID, .ok groups => ListsRecords cellID w groups
  | .tasksByCellID _, .ok ts => ∀ guid, guid ∈ w.tasks ↔ HasTask ts guid
  | .deleteContainer _, r => r = none
  | .evacuating, r => r = false
  -- an instance may claim and start what it has, and nobody else takes it away
  | .claimActualLRP processGuid index instanceKey, some err =>
    x.convertError err = .actualLRPCannotBeClaimed ∧
      w.holder (processGuid, index) ≠ some instanceKey
  | .startActualLRP key instanceKey _, some err =>
    x.convertError err = .actualLRPCannotBeStarted ∧ w.holder (recordKey key) ≠ some instanceKey
  | .crashActualLRP key instanceKey _, some _ => w.holder (recordKey key) ≠ some instanceKey
  | .removeActualLRP processGuid index instanceKey, some _ =>
    w.holder (processGuid, index) ≠ some instanceKey
  | .removeEvacuatingActualLRP key instanceKey, some _ =>
    w.evacuating (recordKey key) ≠ some instanceKey
  -- only a task that does not run yet is started, or refused
  | .startTask guid _, (_, some err) =>
    (x.convertError err = .invalidStateTransition ∨ x.convertError err = .resourceNotFound) ∧
      guid ∉ w.tasks
  | .startTask guid _, (true, none) => guid ∉ w.tasks
  | .taskByGuid guid, .ok task => task.taskGuid = guid
  | .completeTask _ _ _ _ _, some err => x.convertError err = .invalidStateTransition
  | .failTask guid _, some _ => guid ∉ w.tasks
  | _, _ => True

/-- What the calls do. A call that is refused does nothing, and neither does one that asks. -/
def effect (w : World) (c : Call) (r : Reply c) : World :=
  match c, r with
  | .deleteContainer guid, _ => w.setContainer guid none
  | .runContainer req, none =>
    w.setContainer req.guid
      ((w.containers req.guid).map fun container => { container with state := .initializing })
  | .stopContainer guid, _ => { w with signalled := insert guid w.signalled }
  | .claimActualLRP processGuid index instanceKey, none =>
    w.put (processGuid, index) ⟨instanceKey, none⟩
  | .startActualLRP key instanceKey netInfo, none =>
    w.put (recordKey key) ⟨instanceKey, some netInfo⟩
  | .crashActualLRP key instanceKey _, none => w.release (recordKey key) instanceKey
  | .removeActualLRP processGuid index instanceKey, none =>
    w.release (processGuid, index) instanceKey
  | .removeEvacuatingActualLRP key instanceKey, none =>
    w.releaseEvacuating (recordKey key) instanceKey
  | .startTask guid _, (_, none) => { w with tasks := insert guid w.tasks }
  | .completeTask guid _ _ _ _, none => { w with tasks := w.tasks \ {guid} }
  | .failTask guid _, none => { w with tasks := w.tasks \ {guid} }
  | _, _ => w

namespace World

variable {w : World} {k : RecordKey} {instanceKey : ActualLRPInstanceKey}

theorem holder_eq_some {instanceKey : ActualLRPInstanceKey} : w.holder k = some instanceKey ↔
    ∃ record, w.records k = some record ∧ record.instanceKey = instanceKey :=
  Option.map_eq_some_iff

theorem holder_of_records {w' : World} (h : w'.records k = w.records k) :
    w'.holder k = w.holder k := by
  rw [holder, holder, h]

@[simp] theorem setContainer_self (guid : String) (container : Option Container) :
    (w.setContainer guid container).containers guid = container :=
  Function.update_self ..

@[simp] theorem put_self (record : Record) : (w.put k record).records k = some record :=
  Function.update_self ..

@[simp] theorem holder_put_self (record : Record) :
    (w.put k record).holder k = some record.instanceKey := by
  rw [holder, put_self, Option.map_some]

/-- A record is left alone, or it was the instance's and is gone. -/
theorem release_cases (k' : RecordKey) :
    (w.release k instanceKey).records k' = w.records k' ∨
      w.holder k' = some instanceKey ∧ (w.release k instanceKey).records k' = none := by
  rcases eq_or_ne k' k with rfl | hne
  · have hself : (w.release k' instanceKey).records k' =
        (w.records k').filter fun record => record.instanceKey ≠ instanceKey :=
      Function.update_self ..
    rw [hself, holder]
    rcases w.records k' with _ | record
    · exact Or.inl rfl
    · rcases eq_or_ne record.instanceKey instanceKey with rfl | hother
      · exact Or.inr ⟨rfl, by simp⟩
      · exact Or.inl (by simp [hother])
  · exact Or.inl (Function.update_of_ne hne ..)

/-- An evacuating record is left alone, or it was the instance's and is gone. -/
theorem releaseEvacuating_cases (k' : RecordKey) :
    (w.releaseEvacuating k instanceKey).evacuating k' = w.evacuating k' ∨
      w.evacuating k' = some instanceKey ∧
        (w.releaseEvacuating k instanceKey).evacuating k' = none := by
  rcases eq_or_ne k' k with rfl | hne
  · have hself : (w.releaseEvacuating k' instanceKey).evacuating k' =
        (w.evacuating k').filter fun instanceKey' => instanceKey' ≠ instanceKey :=
      Function.update_self ..
    rw [hself]
    rcases w.evacuating k' with _ | instanceKey'
    · exact Or.inl rfl
    · rcases eq_or_ne instanceKey' instanceKey with rfl | hother
      · exact Or.inr ⟨rfl, by simp⟩
      · exact Or.inl (by simp [hother])
  · exact Or.inl (Function.update_of_ne hne ..)

end World

/-! ## Containers and their records

A container of an LRP is tied to one record by its tags. The rules of the services say how
containers, records and tasks of one guid go together. -/

/-- The container is that of an LRP and carries these keys. -/
def IsFor (C : Cell) (container : Container) (k : RecordKey)
    (instanceKey : ActualLRPInstanceKey) : Prop :=
  container.tags.get lifecycleTag = lrpLifecycle ∧
    ∃ lrp, decodeLRPContainer C container = .ok lrp ∧ recordKey lrp.key = k ∧
      lrp.instanceKey = instanceKey

section

variable {C : Cell} {container container' : Container} {k k' : RecordKey}
  {instanceKey instanceKey' : ActualLRPInstanceKey}

/-- Only the tags matter, so a container that has moved on is still for the same record. -/
theorem IsFor.of_tags (h : IsFor C container k instanceKey)
    (htags : container'.tags = container.tags) : IsFor C container' k instanceKey := by
  obtain ⟨hlife, lrp, hd, hk, hik⟩ := h
  obtain ⟨hkey, hinstance, -⟩ := decodeLRPContainer_eq_ok.mp hd
  refine ⟨htags ▸ hlife, ⟨lrp.key, lrp.instanceKey, container'⟩,
    decodeLRPContainer_eq_ok.mpr ⟨htags ▸ hkey, ?_, rfl⟩, hk, hik⟩
  rw [← hinstance, actualLRPInstanceKeyFromContainer, actualLRPInstanceKeyFromContainer, htags]

/-- The instance key names the cell, as it is made from the cell's own id. -/
theorem IsFor.cellId (h : IsFor C container k instanceKey) : instanceKey.cellId = C.cellID := by
  obtain ⟨-, lrp, hd, -, rfl⟩ := h
  rw [instanceKey_of_decode hd]

end

/-- What holds of the services of a cell that does not evacuate. The rules are about guids of
this cell; records of other cells are free. -/
structure Sound (C : Cell) (w : World) : Prop where
  /-- containers are found under their guids -/
  guid : ∀ {guid container}, w.containers guid = some container → container.guid = guid
  /-- an LRP container goes by its instance guid -/
  instanceGuid : ∀ {guid container k instanceKey}, w.containers guid = some container →
    IsFor C container k instanceKey → instanceKey.instanceGuid = guid
  /-- no two containers are for one record -/
  distinct : ∀ {guid guid' container container' k instanceKey instanceKey'},
    w.containers guid = some container → IsFor C container k instanceKey →
    w.containers guid' = some container' → IsFor C container' k instanceKey' → guid = guid'
  /-- a record that names a container is the one the container is for -/
  matches_ : ∀ {guid container k}, w.containers guid = some container →
    w.holder k = some ⟨guid, C.cellID⟩ → IsFor C container k ⟨guid, C.cellID⟩
  /-- no container is evacuating -/
  evacuating : ∀ {guid k}, w.evacuating k = some ⟨guid, C.cellID⟩ → w.containers guid = none
  /-- the records that name a guid are under one key -/
  unique : ∀ {guid k k'}, w.holder k = some ⟨guid, C.cellID⟩ ∨
      w.evacuating k = some ⟨guid, C.cellID⟩ →
    w.holder k' = some ⟨guid, C.cellID⟩ ∨ w.evacuating k' = some ⟨guid, C.cellID⟩ → k = k'
  /-- the container of a running task is a task's -/
  tasks : ∀ {guid container}, w.containers guid = some container → guid ∈ w.tasks →
    container.tags.get lifecycleTag = taskLifecycle
  /-- no record names a running task -/
  disjoint : ∀ {guid k}, guid ∈ w.tasks → w.holder k ≠ some ⟨guid, C.cellID⟩ ∧
    w.evacuating k ≠ some ⟨guid, C.cellID⟩

/-- What became of a record: nothing, or it is the one the found container is for and no
other instance got it, or it named the guid and is gone. -/
inductive Touched (C : Cell) (guid : String) (owner : Option Container) (w w' : World)
    (k : RecordKey) : Prop where
  | same : w'.records k = w.records k → Touched C guid owner w w' k
  | own {container : Container} {instanceKey : ActualLRPInstanceKey} : container ∈ owner →
      IsFor C container k instanceKey →
      (∀ instanceKey', w'.holder k = some instanceKey' → instanceKey' = instanceKey) →
      Touched C guid owner w w' k
  | freed {instanceKey : ActualLRPInstanceKey} : w.holder k = some instanceKey →
      instanceKey.instanceGuid = guid → w'.records k = none → Touched C guid owner w w' k

/-- What an operation on a guid can do, where `owner` is the container it found there. -/
structure Change (C : Cell) (guid : String) (owner : Option Container) (w w' : World) :
    Prop where
  others : ∀ guid', guid' ≠ guid → w'.containers guid' = w.containers guid'
  kept : ∀ container', w'.containers guid = some container' →
    ∃ container, w.containers guid = some container ∧ container'.guid = container.guid ∧
      container'.tags = container.tags
  signalled : w.signalled ⊆ w'.signalled
  records : ∀ k, Touched C guid owner w w' k
  evacuating : ∀ k, w'.evacuating k = w.evacuating k ∨
    w'.evacuating k = none ∧ ∃ instanceKey, w.evacuating k = some instanceKey ∧
      instanceKey.instanceGuid = guid
  tasks : ∀ guid', guid' ≠ guid → (guid' ∈ w'.tasks ↔ guid' ∈ w.tasks)
  started : guid ∈ w'.tasks → guid ∈ w.tasks ∨
    ∃ container ∈ owner, container.tags.get lifecycleTag = taskLifecycle

namespace Change

variable {C : Cell} {guid : String} {owner : Option Container} {w w' w'' : World}

theorem refl : Change C guid owner w w where
  others _ _ := rfl
  kept container' h := ⟨container', h, rfl, rfl⟩
  signalled := subset_rfl
  records _ := .same rfl
  evacuating _ := Or.inl rfl
  tasks _ _ := Iff.rfl
  started := Or.inl

/-- What became of a record in two changes is one of the three again. Once another instance
had no way to get it, it has none later. -/
theorem touched_trans {k : RecordKey} (h₁ : Touched C guid owner w w' k)
    (h₂ : Touched C guid owner w' w'' k) : Touched C guid owner w w'' k := by
  cases h₂ with
  | own hc hfor hheld => exact .own hc hfor hheld
  | same hsame =>
    cases h₁ with
    | same hsame₁ => exact .same (hsame.trans hsame₁)
    | own hc hfor hheld =>
      exact .own hc hfor fun instanceKey' h =>
        hheld instanceKey' ((World.holder_of_records hsame).symm.trans h)
    | freed hheld hguid hnone => exact .freed hheld hguid (hsame.trans hnone)
  | freed hheld hguid hnone =>
    cases h₁ with
    | same hsame₁ => exact .freed ((World.holder_of_records hsame₁).symm.trans hheld) hguid hnone
    | own hc hfor _ =>
      refine .own hc hfor ?_
      intro instanceKey' h
      rw [World.holder, hnone] at h
      cases h
    | freed _ _ hnone₁ =>
      rw [World.holder, hnone₁] at hheld
      cases hheld

/-- One change after another, by the same operation, is a change. -/
theorem trans (h₁ : Change C guid owner w w') (h₂ : Change C guid owner w' w'') :
    Change C guid owner w w'' where
  others guid' hne := (h₂.others guid' hne).trans (h₁.others guid' hne)
  kept container'' h := by
    obtain ⟨container', h', hguid', htags'⟩ := h₂.kept container'' h
    obtain ⟨container, hc, hguid, htags⟩ := h₁.kept container' h'
    exact ⟨container, hc, hguid'.trans hguid, htags'.trans htags⟩
  signalled := h₁.signalled.trans h₂.signalled
  records k := touched_trans (h₁.records k) (h₂.records k)
  evacuating k := by
    rcases h₂.evacuating k with hsame | ⟨hnone, instanceKey, hheld, hguid⟩
    · rcases h₁.evacuating k with hsame₁ | ⟨hnone, hheld⟩
      · exact Or.inl (hsame.trans hsame₁)
      · exact Or.inr ⟨hsame.trans hnone, hheld⟩
    · rcases h₁.evacuating k with hsame₁ | ⟨hnone₁, -⟩
      · exact Or.inr ⟨hnone, instanceKey, hsame₁.symm.trans hheld, hguid⟩
      · rw [hnone₁] at hheld
        cases hheld
  tasks guid' hne := (h₂.tasks guid' hne).trans (h₁.tasks guid' hne)
  started h := by
    rcases h₂.started h with h' | howner
    · exact h₁.started h'
    · exact Or.inr howner

/-! ### The steps

The writes the calls of an operation can make, each under the condition that makes it one of
the operation's own. -/

/-- Deleting the container of the guid. -/
theorem delete : Change C guid owner w (w.setContainer guid none) where
  others _ hne := Function.update_of_ne hne ..
  kept container' h := by
    rw [World.setContainer_self] at h
    cases h
  signalled := subset_rfl
  records _ := .same rfl
  evacuating _ := Or.inl rfl
  tasks _ _ := Iff.rfl
  started := Or.inl

/-- Running the container of the guid, which keeps its tags. -/
theorem run : Change C guid owner w (w.setContainer guid
    ((w.containers guid).map fun container => { container with state := .initializing })) where
  others _ hne := Function.update_of_ne hne ..
  kept container' h := by
    rw [World.setContainer_self] at h
    obtain ⟨container, hc, rfl⟩ := Option.map_eq_some_iff.mp h
    exact ⟨container, hc, rfl, rfl⟩
  signalled := subset_rfl
  records _ := .same rfl
  evacuating _ := Or.inl rfl
  tasks _ _ := Iff.rfl
  started := Or.inl

/-- Stopping a container, which only leaves a mark here. -/
theorem stop {guid' : String} :
    Change C guid owner w { w with signalled := insert guid' w.signalled } where
  others _ _ := rfl
  kept container' h := ⟨container', h, rfl, rfl⟩
  signalled := Set.subset_insert _ _
  records _ := .same rfl
  evacuating _ := Or.inl rfl
  tasks _ _ := Iff.rfl
  started := Or.inl

/-- Writing the record that the found container is for. -/
theorem put {container : Container} {k : RecordKey} {record : Record} (hc : container ∈ owner)
    (hfor : IsFor C container k record.instanceKey) : Change C guid owner w (w.put k record) where
  others _ _ := rfl
  kept container' h := ⟨container', h, rfl, rfl⟩
  signalled := subset_rfl
  records k' := by
    rcases eq_or_ne k' k with rfl | hne
    · refine .own hc hfor ?_
      intro instanceKey' h
      rw [World.holder_put_self] at h
      exact (Option.some.inj h).symm
    · exact .same (Function.update_of_ne hne ..)
  evacuating _ := Or.inl rfl
  tasks _ _ := Iff.rfl
  started := Or.inl

/-- Taking a record from an instance that goes by the guid. -/
theorem release {k : RecordKey} {instanceKey : ActualLRPInstanceKey}
    (hguid : instanceKey.instanceGuid = guid) :
    Change C guid owner w (w.release k instanceKey) where
  others _ _ := rfl
  kept container' h := ⟨container', h, rfl, rfl⟩
  signalled := subset_rfl
  records k' := by
    rcases World.release_cases k' with hsame | ⟨hheld, hnone⟩
    · exact .same hsame
    · exact .freed hheld hguid hnone
  evacuating _ := Or.inl rfl
  tasks _ _ := Iff.rfl
  started := Or.inl

/-- Taking an evacuating record from an instance that goes by the guid. -/
theorem releaseEvacuating {k : RecordKey} {instanceKey : ActualLRPInstanceKey}
    (hguid : instanceKey.instanceGuid = guid) :
    Change C guid owner w (w.releaseEvacuating k instanceKey) where
  others _ _ := rfl
  kept container' h := ⟨container', h, rfl, rfl⟩
  signalled := subset_rfl
  records _ := .same rfl
  evacuating k' := by
    rcases World.releaseEvacuating_cases k' with hsame | ⟨hheld, hnone⟩
    · exact Or.inl hsame
    · exact Or.inr ⟨hnone, instanceKey, hheld, hguid⟩
  tasks _ _ := Iff.rfl
  started := Or.inl

/-- Starting a task, if the found container is a task's. -/
theorem startTask {container : Container} (hc : container ∈ owner)
    (hlife : container.tags.get lifecycleTag = taskLifecycle) :
    Change C guid owner w { w with tasks := insert guid w.tasks } where
  others _ _ := rfl
  kept container' h := ⟨container', h, rfl, rfl⟩
  signalled := subset_rfl
  records _ := .same rfl
  evacuating _ := Or.inl rfl
  tasks guid' hne := by rw [Set.mem_insert_iff, or_iff_right hne]
  started _ := Or.inr ⟨container, hc, hlife⟩

/-- Ending the task of the guid, whether it failed or was completed. -/
theorem endTask : Change C guid owner w { w with tasks := w.tasks \ {guid} } where
  others _ _ := rfl
  kept container' h := ⟨container', h, rfl, rfl⟩
  signalled := subset_rfl
  records _ := .same rfl
  evacuating _ := Or.inl rfl
  tasks guid' hne := by
    rw [Set.mem_sdiff, Set.mem_singleton_iff]
    exact and_iff_left hne
  started h := Or.inl h.1

/-! ### What a change keeps

Read backwards: whatever is in the later world has a reason in the earlier one. -/

/-- A container of the later world was there before, with the same tags. -/
theorem before (h : Change C guid owner w w') {guid' : String} {container' : Container}
    (hc : w'.containers guid' = some container') :
    ∃ container, w.containers guid' = some container ∧ container'.guid = container.guid ∧
      container'.tags = container.tags := by
  rcases eq_or_ne guid' guid with rfl | hne
  · exact h.kept container' hc
  · exact ⟨container', (h.others guid' hne).symm.trans hc, rfl, rfl⟩

/-- An evacuating record of the later world was there before. -/
theorem evacuating_before (h : Change C guid owner w w') {k : RecordKey}
    {instanceKey : ActualLRPInstanceKey} (hheld : w'.evacuating k = some instanceKey) :
    w.evacuating k = some instanceKey := by
  rcases h.evacuating k with hsame | ⟨hnone, -⟩
  · exact hsame.symm.trans hheld
  · rw [hnone] at hheld
    cases hheld

/-- A holder of the later world had the record before, or is the found container's. -/
theorem holder_before (h : Change C guid owner w w') {k : RecordKey}
    {instanceKey : ActualLRPInstanceKey} (hheld : w'.holder k = some instanceKey) :
    w.holder k = some instanceKey ∨ ∃ container ∈ owner, IsFor C container k instanceKey := by
  cases h.records k with
  | same hsame => exact Or.inl ((World.holder_of_records hsame).symm.trans hheld)
  | own hc hfor hown =>
    obtain rfl := hown _ hheld
    exact Or.inr ⟨_, hc, hfor⟩
  | freed _ _ hnone =>
    rw [World.holder, hnone] at hheld
    cases hheld

end Change

/-! ## What any number of operations can do

A sync has many operations, and other threads interleave with them. What they all keep is said
without their guids, relative to the world at the start. -/

/-- The world as it may have become: containers were kept or deleted; the records of the cell
were kept, removed, or given to the containers they are for; and tasks of task containers were
started. -/
structure Evolved (C : Cell) (w₀ w : World) : Prop where
  before : ∀ {guid container'}, w.containers guid = some container' →
    ∃ container, w₀.containers guid = some container ∧ container'.guid = container.guid ∧
      container'.tags = container.tags
  holder : ∀ {k guid}, w.holder k = some ⟨guid, C.cellID⟩ →
    w₀.holder k = some ⟨guid, C.cellID⟩ ∨
      ∃ guid' container, w₀.containers guid' = some container ∧
        IsFor C container k ⟨guid, C.cellID⟩
  evacuating : ∀ {k guid}, w.evacuating k = some ⟨guid, C.cellID⟩ →
    w₀.evacuating k = some ⟨guid, C.cellID⟩
  tasks : ∀ {guid}, guid ∈ w.tasks → guid ∈ w₀.tasks ∨
    ∃ container, w₀.containers guid = some container ∧
      container.tags.get lifecycleTag = taskLifecycle

namespace Evolved

variable {C : Cell} {guid : String} {w₀ w w' : World}

theorem refl : Evolved C w w where
  before h := ⟨_, h, rfl, rfl⟩
  holder := Or.inl
  evacuating h := h
  tasks := Or.inl

/-- A world has still evolved from the first one after what an operation did, if the container
that operation found is that of the first world. -/
theorem change (h : Evolved C w₀ w) (hch : Change C guid (w₀.containers guid) w w') :
    Evolved C w₀ w' where
  before hc := by
    obtain ⟨container', hc', hguid', htags'⟩ := hch.before hc
    obtain ⟨container, hc, hguid, htags⟩ := h.before hc'
    exact ⟨container, hc, hguid'.trans hguid, htags'.trans htags⟩
  holder hheld := by
    rcases hch.holder_before hheld with hheld | ⟨container, hc, hfor⟩
    · exact h.holder hheld
    · exact Or.inr ⟨guid, container, hc, hfor⟩
  evacuating hheld := h.evacuating (hch.evacuating_before hheld)
  tasks {guid'} hmem := by
    rcases eq_or_ne guid' guid with rfl | hne
    · rcases hch.started hmem with hmem | hstarted
      · exact h.tasks hmem
      · exact Or.inr hstarted
    · exact h.tasks ((hch.tasks guid' hne).mp hmem)

/-- The calls that keep it so: those that write a record write that of a container, and those
that start a task start that of a task container. -/
def Allowed (C : Cell) (w₀ : World) : Call → Prop
  | .claimActualLRP processGuid index instanceKey =>
    ∃ guid container, w₀.containers guid = some container ∧
      IsFor C container (processGuid, index) instanceKey
  | .startActualLRP key instanceKey _ =>
    ∃ guid container, w₀.containers guid = some container ∧
      IsFor C container (recordKey key) instanceKey
  | .startTask guid _ => ∃ container, w₀.containers guid = some container ∧
      container.tags.get lifecycleTag = taskLifecycle
  | _ => True

/-- **Whatever is answered**, an allowed call keeps it so. -/
theorem effect (h : Evolved C w₀ w) {c : Call} (hc : Allowed C w₀ c) (r : Reply c) :
    Evolved C w₀ (effect w c r) := by
  unfold CellRep.effect
  split
  · exact h.change .delete
  · exact h.change .run
  · exact h.change (.stop (C := C) (w := w) : Change C "" _ _ _)
  · obtain ⟨guid, container, hc, hfor⟩ := hc
    exact h.change (.put hc hfor)
  · obtain ⟨guid, container, hc, hfor⟩ := hc
    exact h.change (.put hc hfor)
  · exact h.change (.release rfl)
  · exact h.change (.release rfl)
  · exact h.change (.releaseEvacuating rfl)
  · obtain ⟨container, hc, hlife⟩ := hc
    exact h.change (.startTask hc hlife)
  · exact h.change .endTask
  · exact h.change .endTask
  · exact h

end Evolved

end CellRep
