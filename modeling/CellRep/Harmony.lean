import CellRep.Causes
import CellRep.Rely
import CellRep.Services

/-!
# What a sync is for

The rep keeps the containers of the executor and the records of the BBS in agreement. Every
operation looks at one container or one record and calls what is out of step
(`generator/internal`, `generator/operation.go`); a sync makes one operation for each guid
either side knows (`generator/generator.go`), and the queue runs those of different guids
side by side.

With services that answer as they should (`Services`), the operations of one sync, interleaved
in any way, bring the two sides together (`Agreed`): the record of every LRP container is its
own, started if the container runs; every task container's task runs; no completed container
is left, and no record and no running task of the cell is without its container. Once they
agree, another sync changes nothing.

Every operation guarantees a `Change` of its own guid. That leaves the other guids what they
rely on (`Rely`): their containers, their tasks, and the records of their containers.
-/

namespace CellRep

open Models (ActualLRP ActualLRPGroup ActualLRPInstanceKey)
open Executor (Container)

/-! ## Agreement

What both sides should look like, container by container. This is the purpose of the rep in
its own terms: nothing here mentions a call or an operation. -/

/-- The record is what the container's state asks for: claimed until the container runs, and
started with the net info of a container that does, unless that container was told to stop. A
completed container should not be there at all. -/
def RecordInStep (C : Cell) (w : World) (container : Container) (k : RecordKey)
    (instanceKey : ActualLRPInstanceKey) : Prop :=
  match container.state with
  | .reserved | .initializing | .created => w.holder k = some instanceKey
  | .running => ∀ netInfo, actualLRPNetInfoFromContainer C.ext container = .ok netInfo →
    w.records k = some ⟨instanceKey, some netInfo⟩ ∨ container.guid ∈ w.signalled
  | .completed => False
  | .invalid _ => True

/-- The task runs as long as its container is not through. A completed container should not be
there at all. -/
def TaskInStep (w : World) (container : Container) : Prop :=
  match container.state with
  | .reserved | .initializing | .created | .running => container.guid ∈ w.tasks
  | .completed => False
  | .invalid _ => True

/-- The container and the BBS agree. A container that is neither an LRP's nor a task's, or
whose keys cannot be read, is nobody's business. -/
structure ContainerInStep (C : Cell) (w : World) (container : Container) : Prop where
  record : ∀ {k instanceKey}, IsFor C container k instanceKey →
    RecordInStep C w container k instanceKey
  task : container.tags.get lifecycleTag = taskLifecycle → TaskInStep w container

/-- The BBS knows nothing of the guid on this cell: no record, no evacuating record and no
running task goes by it. -/
structure Unnamed (C : Cell) (w : World) (guid : String) : Prop where
  record : ∀ k, w.holder k ≠ some ⟨guid, C.cellID⟩
  evacuating : ∀ k, w.evacuating k ≠ some ⟨guid, C.cellID⟩
  task : guid ∉ w.tasks

/-- Both sides agree on a guid: its container is in step, or there is none and nothing names
it. -/
structure InStep (C : Cell) (w : World) (guid : String) : Prop where
  found : ∀ {container}, w.containers guid = some container → ContainerInStep C w container
  absent : w.containers guid = none → Unnamed C w guid

section

variable {C : Cell} {w w' : World} {guid : String} {container : Container} {k : RecordKey}
  {instanceKey : ActualLRPInstanceKey}

/-- With a container the guid is in step when the container is. -/
theorem InStep.of_found (hc : w.containers guid = some container)
    (h : ContainerInStep C w container) : InStep C w guid where
  found hc' := by
    obtain rfl := Option.some.inj (hc.symm.trans hc')
    exact h
  absent hnone := by
    rw [hnone] at hc
    cases hc

/-- Without one the guid is in step when nothing names it. -/
theorem InStep.of_absent (hnone : w.containers guid = none) (h : Unnamed C w guid) :
    InStep C w guid where
  found hc := by
    rw [hnone] at hc
    cases hc
  absent _ := h

end

/-! ## What the other operations leave alone

The operations of a sync have different guids. Each relies on what the others cannot touch:
this relation is implied by the change of any other guid, and is all an operation is proved
under. -/

/-- What an operation on a guid relies on, in a sync that began in `w₀`. Of other guids, and
of records that are not the container's own, nothing is assumed. -/
structure Rely (C : Cell) (w₀ : World) (guid : String) (w w' : World) : Prop where
  container : w'.containers guid = w.containers guid
  /-- no record begins to name the guid -/
  named : ∀ {k}, w'.holder k = some ⟨guid, C.cellID⟩ → w.holder k = some ⟨guid, C.cellID⟩
  /-- the container's own record is not touched -/
  own : ∀ {container k instanceKey}, w₀.containers guid = some container →
    IsFor C container k instanceKey → w.holder k = some instanceKey → w'.records k = w.records k
  evacuating : ∀ {k}, w'.evacuating k = some ⟨guid, C.cellID⟩ →
    w.evacuating k = some ⟨guid, C.cellID⟩
  task : guid ∈ w'.tasks ↔ guid ∈ w.tasks
  signalled : guid ∈ w.signalled → guid ∈ w'.signalled

namespace Rely

variable {C : Cell} {w₀ w w' w'' : World} {guid : String} {container : Container}

theorem refl : Rely C w₀ guid w w where
  container := rfl
  named h := h
  own _ _ _ := rfl
  evacuating h := h
  task := Iff.rfl
  signalled h := h

theorem trans (h : Rely C w₀ guid w w') (h' : Rely C w₀ guid w' w'') : Rely C w₀ guid w w'' where
  container := h'.container.trans h.container
  named hheld := h.named (h'.named hheld)
  own hc hfor hheld := by
    have hsame := h.own hc hfor hheld
    exact (h'.own hc hfor ((World.holder_of_records hsame).trans hheld)).trans hsame
  evacuating hheld := h.evacuating (h'.evacuating hheld)
  task := h'.task.trans h.task
  signalled hmem := h'.signalled (h.signalled hmem)

/-- The holder of the container's record keeps it. -/
theorem holder (h : Rely C w₀ guid w w') (hc : w₀.containers guid = some container)
    {k : RecordKey} {instanceKey : ActualLRPInstanceKey} (hfor : IsFor C container k instanceKey)
    (hheld : w.holder k = some instanceKey) : w'.holder k = some instanceKey :=
  (World.holder_of_records (h.own hc hfor hheld)).trans hheld

/-- A container in step stays in step, whatever its state. The state may have moved on since
the start; only its guid and its tags have to be those of the first container. -/
theorem inStep (h : Rely C w₀ guid w w') (hc : w₀.containers guid = some container)
    {container' : Container} (hguid : container'.guid = guid)
    (htags : container'.tags = container.tags) (hin : ContainerInStep C w container') :
    ContainerInStep C w' container' := by
  refine ⟨?_, ?_⟩
  · intro k instanceKey hfor'
    -- the record is that of the first container as well, which is what may be relied on
    have hfor := hfor'.of_tags htags.symm
    have hrecord := hin.record hfor'
    rw [RecordInStep] at hrecord ⊢
    cases hstate : container'.state with
    | reserved | initializing | created =>
      rw [hstate] at hrecord
      exact h.holder hc hfor hrecord
    | running =>
      rw [hstate] at hrecord
      intro netInfo hnet
      rcases hrecord netInfo hnet with hstarted | hsignalled
      · exact Or.inl ((h.own hc hfor (World.holder_eq_some.mpr ⟨_, hstarted, rfl⟩)).trans hstarted)
      · rw [hguid] at hsignalled ⊢
        exact Or.inr (h.signalled hsignalled)
    | completed =>
      rw [hstate] at hrecord
      exact hrecord
    | invalid _ => trivial
  · intro hlife
    have htask := hin.task hlife
    rw [TaskInStep, hguid] at htask ⊢
    cases hstate : container'.state with
    | reserved | initializing | created | running =>
      rw [hstate] at htask
      exact h.task.mpr htask
    | completed =>
      rw [hstate] at htask
      exact htask
    | invalid _ => trivial

end Rely

section

variable {C : Cell} {container : Container} {lrp : LRPContainer} {w : World}

/-- What the operation of an LRP container knows throughout: nothing but the container's own
record names it. -/
structure Own (C : Cell) (container : Container) (w : World) : Prop where
  record : ∀ {k}, w.holder k = some ⟨container.guid, C.cellID⟩ →
    IsFor C container k ⟨container.guid, C.cellID⟩
  evacuating : ∀ k, w.evacuating k ≠ some ⟨container.guid, C.cellID⟩
  task : container.guid ∉ w.tasks

/-- The others do not change what is known: none of them begins to name the guid. -/
theorem Own.rely {w₀ w' : World} (h : Own C container w) (hr : Rely C w₀ container.guid w w') :
    Own C container w' where
  record hheld := h.record (hr.named hheld)
  evacuating k hheld := h.evacuating k (hr.evacuating hheld)
  task hmem := h.task (hr.task.mp hmem)

/-- The operation's own calls do not change it either: they write the container's own record
only. -/
theorem Own.change {w' : World} (h : Own C container w)
    (hlife : container.tags.get lifecycleTag = lrpLifecycle)
    (hch : Change C container.guid (some container) w w') : Own C container w' where
  record hheld := by
    rcases hch.holder_before hheld with hheld | ⟨container', hc, hfor⟩
    · exact h.record hheld
    · obtain rfl := Option.some.inj hc
      exact hfor
  evacuating k hheld := h.evacuating k (hch.evacuating_before hheld)
  task hmem := by
    rcases hch.started hmem with hmem | ⟨container', hc, htask⟩
    · exact h.task hmem
    · obtain rfl := Option.some.inj hc
      rw [hlife] at htask
      exact absurd htask (by decide)

/-- An LRP container is named by its own record only. -/
theorem Sound.own {w₀ : World} (hs : Sound C w₀)
    (hc : w₀.containers container.guid = some container)
    (hlife : container.tags.get lifecycleTag = lrpLifecycle) : Own C container w₀ where
  record hheld := hs.matches_ hc hheld
  evacuating k hheld := by
    rw [hs.evacuating hheld] at hc
    cases hc
  task hmem := by
    have htask := hs.tasks hc hmem
    rw [hlife] at htask
    exact absurd htask (by decide)

/-- What is left of an LRP container that was processed: it is in step, or it is gone and its
record is not its own. -/
def Left (C : Cell) (container : Container) (w : World) : Prop :=
  (∃ container', w.containers container.guid = some container' ∧
    container'.guid = container.guid ∧ container'.tags = container.tags ∧
    ContainerInStep C w container') ∨
  w.containers container.guid = none ∧
    ∀ {k instanceKey}, IsFor C container k instanceKey → w.holder k ≠ some instanceKey

/-- A guid whose container is left so is in step, since nothing but the container's own record
can name it. -/
theorem Left.inStep (h : Left C container w) (hown : Own C container w) :
    InStep C w container.guid := by
  rcases h with ⟨container', hc', -, -, hin⟩ | ⟨hnone, hfree⟩
  · exact .of_found hc' hin
  · exact .of_absent hnone ⟨fun k hheld => hfree (hown.record hheld) hheld, hown.evacuating,
      hown.task⟩

end

section

variable {C : Cell} {w₀ : World} {container : Container} {lrp : LRPContainer} {P : Set World}

variable (hs : Sound C w₀) (hc : w₀.containers container.guid = some container)

include hs hc in
/-- The others leave a container in step or gone: they neither touch it and its record, nor
give the record to an instance that is gone. -/
theorem Left.rely {w w' : World} (hr : Rely C w₀ container.guid w w') (h : Left C container w) :
    Left C container w' := by
  rcases h with ⟨container', hc', hguid, htags, hin⟩ | ⟨hnone, hfree⟩
  · exact Or.inl ⟨container', hr.container.trans hc', hguid, htags, hr.inStep hc hguid htags hin⟩
  · refine Or.inr ⟨hr.container.trans hnone, ?_⟩
    intro k instanceKey hfor hheld
    have hik : instanceKey = ⟨container.guid, C.cellID⟩ := by
      rw [← hs.instanceGuid hc hfor, ← hfor.cellId]
    rw [hik] at hheld
    exact hfree hfor (hik ▸ hr.named hheld)

variable (hd : decodeLRPContainer C container = .ok lrp)
  (hfor : IsFor C container (recordKey lrp.key) lrp.instanceKey)

end

section

variable {C : Cell} {w₀ : World} {container : Container} {P : Set World} (hs : Sound C w₀)
  (hc : w₀.containers container.guid = some container)

end

/-! ## Task containers

A task has no record, so all there is to say of its guid is the container and whether the task
runs. Each step of the processor moves between three situations: nothing known of the task,
the task runs, and both are gone. None of them is disturbed by the other operations, since
these neither touch the container nor start, end or name the task. -/

/-- What the operation of a task container knows: no record names it, and which container is
there. -/
structure TaskView (C : Cell) (guid : String) (found : Option Container) (w : World) : Prop where
  record : ∀ k, w.holder k ≠ some ⟨guid, C.cellID⟩
  evacuating : ∀ k, w.evacuating k ≠ some ⟨guid, C.cellID⟩
  container : w.containers guid = found

section

variable {C : Cell} {w₀ w w' : World} {guid : String} {found : Option Container}
  {container : Container} {P : Set World}

theorem TaskView.rely (hr : Rely C w₀ guid w w') (h : TaskView C guid found w) :
    TaskView C guid found w' where
  record k hheld := h.record k (hr.named hheld)
  evacuating k hheld := h.evacuating k (hr.evacuating hheld)
  container := hr.container.trans h.container

/-- The task runs, and its container is there. -/
def TaskRunning (C : Cell) (container : Container) (w : World) : Prop :=
  TaskView C container.guid (some container) w ∧ container.guid ∈ w.tasks

/-- The container is gone, and the task does not run. -/
def TaskEnded (C : Cell) (guid : String) (w : World) : Prop :=
  TaskView C guid none w ∧ guid ∉ w.tasks

theorem TaskRunning.rely (hr : Rely C w₀ container.guid w w') (h : TaskRunning C container w) :
    TaskRunning C container w' :=
  ⟨h.1.rely hr, hr.task.mpr h.2⟩

theorem TaskEnded.rely (hr : Rely C w₀ guid w w') (h : TaskEnded C guid w) :
    TaskEnded C guid w' :=
  ⟨h.1.rely hr, fun hmem => h.2 (hr.task.mp hmem)⟩

/-- A guid whose container and task are gone is in step. -/
theorem TaskEnded.inStep (h : TaskEnded C guid w) : InStep C w guid :=
  .of_absent h.1.container ⟨h.1.record, h.1.evacuating, h.2⟩

/-- Deleting the container changes nothing else that is known. -/
theorem TaskView.delete (h : TaskView C guid found w) :
    TaskView C guid none (w.setContainer guid none) where
  record := h.record
  evacuating := h.evacuating
  container := World.setContainer_self ..

variable (hc : w₀.containers container.guid = some container)
  (hlife : container.tags.get lifecycleTag = taskLifecycle)

end

section

variable {C : Cell} {w₀ w w' : World} {guid : String} {container : Container} {P : Set World}

end

/-! ## The operations of a batch

The operations are made from three lists. These say what the services had when the sync began,
which the operations of other guids have left alone so far. -/

/-- The three answers a batch is made from tell what the services have. -/
structure Lists (C : Cell) (w : World) (cs : List Container) (gs : List ActualLRPGroup)
    (ts : List Models.Task) : Prop where
  containers : ∀ guid container, w.containers guid = some container ↔
    container ∈ cs ∧ container.guid = guid
  records : ListsRecords C.cellID w gs
  tasks : ∀ guid, guid ∈ w.tasks ↔ HasTask ts guid

section

variable {C : Cell} {w : World} {cs : List Container} {gs : List ActualLRPGroup}
  {ts : List Models.Task} {guid : String}

/-- A guid is listed with a container exactly if there is one. -/
theorem Lists.hasContainer (h : Lists C w cs gs ts) :
    HasContainer cs guid ↔ ∃ container, w.containers guid = some container := by
  refine ⟨?_, ?_⟩
  · rintro ⟨container, hmem, hguid⟩
    exact ⟨container, (h.containers guid container).mpr ⟨hmem, hguid⟩⟩
  · rintro ⟨container, hc⟩
    exact ⟨container, (h.containers guid container).mp hc⟩

/-- Without a listed container there is none. -/
theorem Lists.absent (h : Lists C w cs gs ts) (hc : ¬ HasContainer cs guid) :
    w.containers guid = none := by
  by_contra hne
  exact hc (h.hasContainer.mpr (Option.ne_none_iff_exists'.mp hne))

/-- A listed record is one of the cell, under its key and with the guid it is listed by. -/
theorem Lists.holder (h : Lists C w cs gs ts) {lrp : ActualLRP} (hmem : lrp ∈ instanceRecords gs)
    (hguid : recordGuid lrp = guid) : lrp.instanceKey = ⟨guid, C.cellID⟩ ∧
      w.holder (recordKey lrp.key) = some ⟨guid, C.cellID⟩ := by
  obtain ⟨hheld, hcell⟩ := (h.records.instances _ _).mpr ⟨lrp, hmem, rfl, rfl⟩
  have hik : lrp.instanceKey = ⟨guid, C.cellID⟩ := by
    rw [← hguid, ← hcell]
    rfl
  exact ⟨hik, hik ▸ hheld⟩

/-- A listed evacuating record is one of the cell, under its key and with the guid it is
listed by. -/
theorem Lists.evacuating (h : Lists C w cs gs ts) {lrp : ActualLRP}
    (hmem : lrp ∈ evacuatingRecords gs) (hguid : recordGuid lrp = guid) :
    lrp.instanceKey = ⟨guid, C.cellID⟩ ∧
      w.evacuating (recordKey lrp.key) = some ⟨guid, C.cellID⟩ := by
  obtain ⟨hheld, hcell⟩ := (h.records.evacuating _ _).mpr ⟨lrp, hmem, rfl, rfl⟩
  have hik : lrp.instanceKey = ⟨guid, C.cellID⟩ := by
    rw [← hguid, ← hcell]
    rfl
  exact ⟨hik, hik ▸ hheld⟩

end

/-! ### Guids without a container

A residual operation has no container to bring into step. It looks for one again, and then
removes what named the guid when the sync began; nothing new has named it since. -/

/-- What a residual operation knows: there is no container, and what names the guid did so at
the start. -/
structure Lost (C : Cell) (w₀ : World) (guid : String) (w : World) : Prop where
  container : w.containers guid = none
  record : ∀ {k}, w.holder k = some ⟨guid, C.cellID⟩ → w₀.holder k = some ⟨guid, C.cellID⟩
  evacuating : ∀ {k}, w.evacuating k = some ⟨guid, C.cellID⟩ →
    w₀.evacuating k = some ⟨guid, C.cellID⟩
  task : guid ∈ w.tasks → guid ∈ w₀.tasks

section

variable {C : Cell} {w₀ w w' : World} {guid : String} {P : Set World}

theorem Lost.rely (hr : Rely C w₀ guid w w') (h : Lost C w₀ guid w) : Lost C w₀ guid w' where
  container := hr.container.trans h.container
  record hheld := h.record (hr.named hheld)
  evacuating hheld := h.evacuating (hr.evacuating hheld)
  task hmem := h.task (hr.task.mp hmem)

/-- The operation's own calls do not either. -/
theorem Lost.change (h : Lost C w₀ guid w) (hch : Change C guid none w w') :
    Lost C w₀ guid w' where
  container := by
    by_contra hne
    obtain ⟨container', hc'⟩ := Option.ne_none_iff_exists'.mp hne
    obtain ⟨container, hc, -⟩ := hch.kept container' hc'
    rw [h.container] at hc
    cases hc
  record hheld := by
    rcases hch.holder_before hheld with hheld | ⟨container, hc, -⟩
    · exact h.record hheld
    · cases hc
  evacuating hheld := h.evacuating (hch.evacuating_before hheld)
  task hmem := by
    rcases hch.started hmem with hmem | ⟨container, hc, -⟩
    · exact h.task hmem
    · cases hc

/-- The guid is in step once nothing names it that did at the start. -/
theorem Lost.inStep (h : Lost C w₀ guid w)
    (hrecord : ∀ {k}, w₀.holder k = some ⟨guid, C.cellID⟩ → w.holder k ≠ some ⟨guid, C.cellID⟩)
    (hevacuating : ∀ {k}, w₀.evacuating k = some ⟨guid, C.cellID⟩ →
      w.evacuating k ≠ some ⟨guid, C.cellID⟩)
    (htask : guid ∈ w₀.tasks → guid ∉ w.tasks) : InStep C w guid :=
  .of_absent h.container ⟨fun _ hheld => hrecord (h.record hheld) hheld,
    fun _ hheld => hevacuating (h.evacuating hheld) hheld, fun hmem => htask (h.task hmem) hmem⟩

variable (hnone : w₀.containers guid = none)

end

section

variable {C : Cell} {w₀ : World} {P : Set World} {cs : List Container}
  {gs : List ActualLRPGroup} {ts : List Models.Task} {guid : String} {op : Operation}

end

/-! ## A sync

A batch is computed before its operations run, and the reads change nothing. So the lists tell
what the services have when the operations start. -/

section

variable {C : Cell} {s : Schedule} {w : World}

end

section

variable {C : Cell} {w₀ w : World} {guids : List String}

end

section

variable {container : Container} {k : RecordKey} {record : Record}

end

/-! ## Once they agree

With no LRP container new and none told to stop, another sync repeats what the BBS knows and
does nothing else. The operations are now proved under another rely: nobody changes anything. -/

/-- The container is not new and not on its way out. A new one would be run by the next sync,
and one that was told to stop need not have its record. -/
structure Quiet (w : World) (container : Container) : Prop where
  state : container.tags.get lifecycleTag = lrpLifecycle → container.state ≠ .reserved
  signalled : container.guid ∉ w.signalled

/-- Nothing changed but the net infos of records, which a repeated claim clears and a repeated
start writes again. -/
structure Same (w w' : World) : Prop where
  containers : w'.containers = w.containers
  holder : ∀ k, w'.holder k = w.holder k
  tasks : w'.tasks = w.tasks

section

variable {C : Cell} {w w' : World} {guid : String} {container : Container}

/-- Writing the record of the instance that has it changes nothing that counts. -/
theorem Same.put (h : Same w w') {k : RecordKey} {record : Record}
    (hheld : w.holder k = some record.instanceKey) : Same w (w'.put k record) where
  containers := h.containers
  holder k' := by
    rcases eq_or_ne k' k with rfl | hne
    · rw [World.holder_put_self, hheld]
    · exact (World.holder_of_records (Function.update_of_ne hne ..)).trans (h.holder k')
  tasks := h.tasks

/-- An LRP container in step has its record, unless it is new or told to stop. -/
theorem ContainerInStep.holder (h : ContainerInStep C w container) {k : RecordKey}
    {instanceKey : ActualLRPInstanceKey} (hfor : IsFor C container k instanceKey)
    (hsignalled : container.guid ∉ w.signalled) :
    match container.state with
    | .reserved | .initializing | .created => w.holder k = some instanceKey
    | .running => ∀ netInfo, actualLRPNetInfoFromContainer C.ext container = .ok netInfo →
      w.holder k = some instanceKey
    | .completed => False
    | .invalid _ => True := by
  have hin := h.record hfor
  rw [RecordInStep] at hin
  cases hstate : container.state with
  | running =>
    rw [hstate] at hin
    intro netInfo hnet
    rcases hin netInfo hnet with hrecord | hmem
    · exact World.holder_eq_some.mpr ⟨_, hrecord, rfl⟩
    · exact absurd hmem hsignalled
  | reserved | initializing | created | completed | invalid _ =>
    rw [hstate] at hin
    exact hin

/-- A step that changes nothing, as far as anything can be told by then. -/
def Keeps (w w₁ w₂ : World) : Prop := Same w w₁ → Same w w₂

theorem Keeps.refl {w₁ : World} : Keeps w w₁ w₁ := fun h => h

theorem Keeps.trans {w₁ w₂ w₃ : World} (h : Keeps w w₁ w₂) (h' : Keeps w w₂ w₃) : Keeps w w₁ w₃ :=
  fun hsame => h' (h hsame)

variable {P : Set World}

end

end CellRep
