import CellRep.Identity
import CellRep.Perform

/-!
# The auctioneer's prediction

The auctioneer keeps a copy of a cell's state and, when it hands work out, updates the
copy itself (`addLRP`, `addTask`) without asking the cell again. The cell computes its
state anew from the containers the executor lists. This module shows that the two
agree: after any `Perform`, the state the cell reports is the old state with exactly
the work it kept added, in any order.

The cell's side is put into closed form first (`tally_eq`: what a list of containers
contributes), then the auctioneer's side (`addAll_eq`), and the two are compared on
the containers that were added.
-/

namespace CellRep

open Executor (Container AllocationRequest AllocationFailure ExecutorResources)

/-! ## The executor

The prediction can only be right if the executor does its own accounting: whatever it places
it counts once, and it lets nothing go by itself in the meantime. `executor` is that
assumption, written as a specification whose ghost state is the executor's. -/

/-- What the executor holds, as far as the rep can ask for it. -/
structure ExecutorState where
  containers : List Container
  remaining : ExecutorResources
  total : ExecutorResources
  drivers : List String

/-- What is left once a request is placed: its memory, its disk and one container less. -/
def lower (resources : ExecutorResources) (req : AllocationRequest) : ExecutorResources :=
  ⟨resources.memoryMB - req.resource.memoryMB, resources.diskMB - req.resource.diskMB,
    resources.containers - 1⟩

/-- Place requests: each becomes a reserved container and takes its share. New containers are
put at the end of the list, which no listing has to respect. -/
def ExecutorState.allocate (w : ExecutorState) (requests : List AllocationRequest) :
    ExecutorState :=
  { w with
    containers := w.containers ++ requests.map AllocationRequest.container
    remaining := requests.foldl lower w.remaining }

/-- The requests of a call that are not among its failures; none if it failed. It is `left`
with requests in place of work. -/
def accepted (requests : List AllocationRequest) :
    Except Err (List AllocationFailure) → List AllocationRequest
  | .error _ => []
  | .ok failures => requests.filter fun req => req.guid ∉ failedGuids failures

/-- How an executor to which nothing else happens answers, on a cell that is not
evacuating. Containers are listed in any order. -/
def executor : Spec Call Reply ExecutorState where
  pre _ _ := True
  ans w c r :=
    match c, r with
    | .listContainers, .ok containers => containers.Perm w.containers
    | .totalResources, .ok resources => resources = w.total
    | .remainingResources, .ok resources => resources = w.remaining
    | .volumeDrivers, .ok drivers => drivers = w.drivers
    | .evacuating, isEvacuating => isEvacuating = false
    | .allocateContainers requests, reply => Truthful requests reply
    | _, _ => True
  next w c r :=
    match c, r with
    | .allocateContainers requests, reply => w.allocate (accepted requests reply)
    | _, _ => w

/-- An allocation without requests leaves everything as it is. -/
@[simp] theorem ExecutorState.allocate_nil (w : ExecutorState) : w.allocate [] = w := by
  simp [ExecutorState.allocate]

/-! ## The cell's side

`State` walks over the containers with an accumulator of three parts. The walk is put into
closed form: two `filterMap`s and a count, which permutations of the containers and appended
containers can be pushed through. -/

/-- The LRP a container is listed as: none if it is not tagged as an LRP's, and none if the
key cannot be read from the tags. The placement constraint and the number of processes are not
recorded in a container and come back empty. -/
def containerLRP (x : External) (container : Container) : Option LRP :=
  if container.tags.get lifecycleTag = lrpLifecycle then
    match actualLRPKeyFromTags x container.tags with
    | .error _ => none
    | .ok key => some ⟨key, ⟨[], [], ""⟩,
        ⟨container.resource.memoryMB.toInt32, container.resource.diskMB.toInt32, 0⟩⟩
  else none

/-- The task a container is listed as. Nothing can go wrong here, as a task goes by its
container's guid. -/
def containerTask (container : Container) : Option Task :=
  if container.tags.get lifecycleTag = taskLifecycle then
    some ⟨container.guid, container.tags.get domainTag, ⟨[], [], ""⟩,
      ⟨container.resource.memoryMB.toInt32, container.resource.diskMB.toInt32, 0⟩⟩
  else none

/-- The two lifecycles are told apart, so no container is listed as both. -/
theorem lrpLifecycle_ne_taskLifecycle : lrpLifecycle ≠ taskLifecycle := by decide

/-- One container of the loop, with the accumulator it is added to. An LRP with a broken key
is still counted among the starting containers. -/
theorem tallyContainer_eq (x : External) (acc : Tally) (container : Container) :
    tallyContainer x acc container =
      ⟨acc.lrps ++ (containerLRP x container).toList, acc.tasks ++ (containerTask container).toList,
        acc.startingContainerCount +
          Int64.ofNat (if containerIsStarting container then 1 else 0)⟩ := by
  -- the count is settled first, then the tags decide
  have hcount : (if containerIsStarting container then
      ({ acc with startingContainerCount := acc.startingContainerCount + 1 } : Tally) else acc) =
      ⟨acc.lrps, acc.tasks, acc.startingContainerCount +
        Int64.ofNat (if containerIsStarting container then 1 else 0)⟩ := by
    by_cases hs : containerIsStarting container
    · rw [if_pos hs, if_pos hs]
      rfl
    · rw [if_neg hs, if_neg hs]
      simp
  rw [tallyContainer, hcount]
  rcases htags : container.tags with _ | tags
  · have hlrp : Executor.Tags.get none lifecycleTag ≠ lrpLifecycle := by decide
    have htask : Executor.Tags.get none lifecycleTag ≠ taskLifecycle := by decide
    simp [containerLRP, containerTask, htags, hlrp, htask]
  · dsimp only
    by_cases hlrp : Executor.Tags.get (some tags) lifecycleTag = lrpLifecycle
    · have htask : Executor.Tags.get (some tags) lifecycleTag ≠ taskLifecycle := by
        rw [hlrp]
        exact lrpLifecycle_ne_taskLifecycle
      rw [containerLRP, containerTask, htags, if_pos hlrp, if_pos hlrp, if_neg htask]
      rcases actualLRPKeyFromTags x (some tags) with err | key
      · simp
      · simp
    · rw [containerLRP, containerTask, htags, if_neg hlrp, if_neg hlrp]
      by_cases htask : Executor.Tags.get (some tags) lifecycleTag = taskLifecycle
      · rw [if_pos htask, if_pos htask]
        simp
      · rw [if_neg htask, if_neg htask]
        simp

/-- **The loop of `State` in closed form**: what each container contributes. -/
theorem tally_eq (x : External) (containers : List Container) :
    ∀ acc : Tally, containers.foldl (tallyContainer x) acc =
      ⟨acc.lrps ++ containers.filterMap (containerLRP x),
        acc.tasks ++ containers.filterMap containerTask,
        acc.startingContainerCount + Int64.ofNat (containers.countP containerIsStarting)⟩ := by
  induction containers with
  | nil =>
    intro acc
    simp
  | cons container containers ih =>
    intro acc
    rw [List.foldl_cons, ih, tallyContainer_eq, List.countP_cons, Nat.add_comm, Int64.ofNat_add,
      Int64.add_assoc]
    rcases hlrp : containerLRP x container with _ | lrp <;>
      rcases htask : containerTask container with _ | task <;> simp [hlrp, htask]

/-- A state that was reported is computed from the answers: five of them in the order of the
code, and the health asked for last. Any error on the way would have been returned instead. -/
theorem trace_state_ok {C : Cell} {t : List RepEvent} {s : CellState} {healthy : Bool}
    (h : (state C).Trace t (.ok (s, healthy))) :
    ∃ containers total available drivers isEvacuating,
      t = [⟨.listContainers, .ok containers⟩, ⟨.totalResources, .ok total⟩,
        ⟨.remainingResources, .ok available⟩, ⟨.volumeDrivers, .ok drivers⟩,
        ⟨.evacuating, isEvacuating⟩, ⟨.healthy, healthy⟩] ∧
      s = cellState C containers total available drivers isEvacuating := by
  simp only [state, Client.listContainers, Client.totalResources, Client.remainingResources,
    Client.volumeDrivers, evacuating, Client.healthy, Prog.call_bind, Prog.ret_bind] at h
  -- a result without an error means that each of the four reads succeeded
  obtain ⟨r₁, t₁, rfl, h₁⟩ := Prog.trace_call.mp h
  rcases r₁ with err | containers
  · cases (Prog.trace_ret.mp h₁).2
  obtain ⟨r₂, t₂, rfl, h₂⟩ := Prog.trace_call.mp h₁
  rcases r₂ with err | total
  · cases (Prog.trace_ret.mp h₂).2
  obtain ⟨r₃, t₃, rfl, h₃⟩ := Prog.trace_call.mp h₂
  rcases r₃ with err | available
  · cases (Prog.trace_ret.mp h₃).2
  obtain ⟨r₄, t₄, rfl, h₄⟩ := Prog.trace_call.mp h₃
  rcases r₄ with err | drivers
  · cases (Prog.trace_ret.mp h₄).2
  obtain ⟨isEvacuating, t₅, rfl, h₅⟩ := Prog.trace_call.mp h₄
  obtain ⟨healthy', t₆, rfl, h₆⟩ := Prog.trace_call.mp h₅
  obtain ⟨rfl, hs⟩ := Prog.trace_ret.mp h₆
  cases hs
  exact ⟨containers, total, available, drivers, isEvacuating, rfl, rfl⟩

/-- What the cell reports when the executor is in the state `w`, up to the order in
which the executor lists its containers. -/
theorem state_of_executor {C : Cell} {w : ExecutorState} {t : List RepEvent} {s : CellState}
    {healthy : Bool} (h : (state C).Trace t (.ok (s, healthy))) (hans : executor.Answered w t) :
    executor.after w t = w ∧ ∃ containers, containers.Perm w.containers ∧
      s = cellState C containers w.total w.remaining w.drivers false := by
  obtain ⟨containers, total, available, drivers, isEvacuating, rfl, rfl⟩ := trace_state_ok h
  obtain ⟨hcontainers, htotal, havailable, hdrivers, hevacuating, -⟩ := hans
  have htotal' : total = w.total := htotal
  have havailable' : available = w.remaining := havailable
  have hdrivers' : drivers = w.drivers := hdrivers
  have hevacuating' : isEvacuating = false := hevacuating
  subst htotal' havailable' hdrivers' hevacuating'
  exact ⟨rfl, containers, hcontainers, rfl⟩

/-! ## The auctioneer's side

The auctioneer subtracts each piece of work from the resources it has on file. The arithmetic
wraps at 32 bits, and subtraction commutes all the same. -/

/-- Resources are taken off in any order. The count of containers goes down by one each time,
whatever is subtracted. -/
theorem foldl_subtract_perm {l₁ l₂ : List Resource} (h : l₁.Perm l₂) (r : Resources) :
    l₁.foldl Resources.subtract r = l₂.foldl Resources.subtract r := by
  refine h.foldl_eq' (fun a _ b _ r => ?_) r
  simp only [Resources.subtract, Resources.mk.injEq]
  refine ⟨?_, ?_, trivial⟩
  · rw [Int32.sub_eq_add_neg, Int32.sub_eq_add_neg, Int32.sub_eq_add_neg, Int32.sub_eq_add_neg,
      Int32.add_assoc, Int32.add_assoc, Int32.add_comm (-b.memoryMB)]
  · rw [Int32.sub_eq_add_neg, Int32.sub_eq_add_neg, Int32.sub_eq_add_neg, Int32.sub_eq_add_neg,
      Int32.add_assoc, Int32.add_assoc, Int32.add_comm (-b.diskMB)]

/-! ## The containers that were added

A container that was just placed is read by `State` through its tags and its resources. What
comes out is compared with the work it was placed for. -/

/-- The resources a placed request takes off, as the auctioneer counts them: narrowing to
`int32` before or after the subtraction makes no difference. -/
theorem convertResources_lower (resources : ExecutorResources) (req : AllocationRequest)
    (res : Resource) (rootFSPath : String)
    (hres : req.resource = allocationResource res rootFSPath) :
    convertResources (lower resources req) = (convertResources resources).subtract res := by
  simp [convertResources, lower, Resources.subtract, hres, allocationResource]

/-- What an LRP's new container is listed as: its key, memory and disk. The number of
processes is gone. -/
theorem containerLRP_lrpRequest {x : External} {lrp : LRP} {instanceGuid rootFSPath : String}
    (hkey : x.validateKey lrp.key = none) :
    containerLRP x (lrpRequest lrp instanceGuid rootFSPath).container =
      some ⟨lrp.key, ⟨[], [], ""⟩, ⟨lrp.resource.memoryMB, lrp.resource.diskMB, 0⟩⟩ := by
  have hlife := (lrpTags_get lrp instanceGuid).2.2.2.1
  have hdecode := actualLRPKeyFromTags_lrpTags lrp instanceGuid hkey
  simp only [containerLRP, AllocationRequest.container, lrpRequest, hlife, if_pos, hdecode,
    allocationResource, Int32.toInt32_toInt64]

/-- The container of an LRP is not listed as a task. -/
theorem containerTask_lrpRequest {lrp : LRP} {instanceGuid rootFSPath : String} :
    containerTask (lrpRequest lrp instanceGuid rootFSPath).container = none := by
  have hlife := (lrpTags_get lrp instanceGuid).2.2.2.1
  simp only [containerTask, AllocationRequest.container, lrpRequest, hlife,
    if_neg lrpLifecycle_ne_taskLifecycle]

/-- The two tags of a task's container, of which the lifecycle is what `State` goes by. -/
theorem taskTags_get (task : Task) :
    Executor.Tags.get (some (taskTags task)) lifecycleTag = taskLifecycle ∧
    Executor.Tags.get (some (taskTags task)) domainTag = task.domain := by
  have hne : lifecycleTag ≠ domainTag := by decide
  simp only [Executor.Tags.get, Option.bind_some, taskTags]
  refine ⟨?_, ?_⟩
  · rw [AList.lookup_insert_ne hne, AList.lookup_insert, Option.getD_some]
  · rw [AList.lookup_insert, Option.getD_some]

/-- What a task's new container is listed as: its guid, domain, memory and disk. -/
theorem containerTask_taskRequest {task : Task} {rootFSPath : String} :
    containerTask (taskRequest task rootFSPath).container =
      some ⟨task.taskGuid, task.domain, ⟨[], [], ""⟩,
        ⟨task.resource.memoryMB, task.resource.diskMB, 0⟩⟩ := by
  obtain ⟨hlife, hdomain⟩ := taskTags_get task
  simp only [containerTask, AllocationRequest.container, taskRequest, hlife, hdomain, if_pos,
    allocationResource, Int32.toInt32_toInt64]

/-- The container of a task is not listed as an LRP. -/
theorem containerLRP_taskRequest {x : External} {task : Task} {rootFSPath : String} :
    containerLRP x (taskRequest task rootFSPath).container = none := by
  have hlife := (taskTags_get task).1
  simp only [containerLRP, AllocationRequest.container, taskRequest, hlife,
    if_neg lrpLifecycle_ne_taskLifecycle.symm]

/-! ## Perform against the executor

The traces of `perform` are known from the conservation law. Here they are replayed against
the executor, whose state afterwards is the old one with two lots of requests placed. -/

/-- The work a reply leaves allocated, with its requests. It has both `left` and `accepted` as
projections, which is how the work and the executor's containers are kept in step. -/
def keptSent {α : Type} (sent : Sent α) : Except Err (List AllocationFailure) → Sent α
  | .error _ => []
  | .ok failures => sent.filter fun p => p.2.guid ∉ failedGuids failures

section

variable {α : Type} {sent : Sent α} {r : Except Err (List AllocationFailure)}

/-- The work of it is what the conservation law calls left. -/
theorem left_eq_keptSent : left sent r = (keptSent sent r).map Prod.fst := by
  cases r with
  | error err => rfl
  | ok failures => rfl

/-- The requests of it are those the executor places. -/
theorem accepted_eq_keptSent :
    accepted (sent.map Prod.snd) r = (keptSent sent r).map Prod.snd := by
  cases r with
  | error err => rfl
  | ok failures =>
    rw [accepted, keptSent, List.filter_map]
    rfl

theorem mem_of_mem_keptSent {p : α × AllocationRequest} (h : p ∈ keptSent sent r) : p ∈ sent := by
  cases r with
  | error err => exact absurd h List.not_mem_nil
  | ok failures => exact List.mem_of_mem_filter h

theorem keptSent_nil : keptSent ([] : Sent α) r = [] := by
  cases r with
  | error err => rfl
  | ok failures => rfl

/-- One half's allocation places what the reply leaves. Without work of this kind there is no
call, and nothing is placed either. -/
theorem after_allocationEvents {input : List α} (w : ExecutorState)
    (hempty : input = [] → sent = []) :
    executor.after w (allocationEvents input (sent.map Prod.snd) r) =
      w.allocate ((keptSent sent r).map Prod.snd) := by
  rcases input with _ | ⟨a, input⟩
  · rw [hempty rfl, keptSent_nil, List.map_nil, ExecutorState.allocate_nil]
    rfl
  · rw [← accepted_eq_keptSent]
    rfl

/-- The executor's resources after placing requests are the auctioneer's after subtracting the
work, provided the requests ask for the work's own resources. -/
theorem convertResources_foldl_lower {kept : Sent α} {res : α → Resource}
    (hres : ∀ p ∈ kept, ∃ rootFSPath, p.2.resource = allocationResource (res p.1) rootFSPath) :
    ∀ resources : ExecutorResources,
      convertResources ((kept.map Prod.snd).foldl lower resources) =
        ((kept.map Prod.fst).map res).foldl Resources.subtract (convertResources resources) := by
  induction kept with
  | nil => exact fun _ => rfl
  | cons p kept ih =>
    intro resources
    obtain ⟨rootFSPath, hp⟩ := hres p (List.mem_cons_self ..)
    simp only [List.map_cons, List.foldl_cons]
    rw [ih fun q hq => hres q (List.mem_cons_of_mem _ hq),
      convertResources_lower resources p.2 (res p.1) rootFSPath hp]

/-- Every placed request is a starting container, since it is reserved. -/
theorem countP_starting_containers (requests : List AllocationRequest) :
    (requests.map AllocationRequest.container).countP containerIsStarting = requests.length := by
  rw [List.countP_eq_length.mpr, List.length_map]
  intro container hmem
  obtain ⟨req, -, rfl⟩ := List.mem_map.mp hmem
  rfl

end

/-- Generating guids does not touch the executor. -/
theorem after_guidEvents (w : ExecutorState) (outcomes : List (Except Err String)) :
    executor.after w (outcomes.map guidEvent) = w := by
  induction outcomes with
  | nil => rfl
  | cons outcome outcomes ih => exact ih

/-- An LRP that was sent is one of the work, and its request is made from it, from a guid that
was generated and from a path. -/
theorem of_mem_sentLRPs {C : Cell} {lrps : List LRP} {outcomes : List (Except Err String)}
    {p : LRP × AllocationRequest} (h : p ∈ sentLRPs C lrps outcomes) :
    p.1 ∈ lrps ∧ ∃ instanceGuid rootFSPath, p.2 = lrpRequest p.1 instanceGuid rootFSPath := by
  obtain ⟨⟨lrp, outcome⟩, hmem, hp⟩ := List.mem_filterMap.mp h
  have hlrp := (List.of_mem_zip hmem).1
  rcases outcome with err | instanceGuid
  · cases hp
  · rcases hpath : pathForRootFS C.ext lrp.placement.rootFs C.stackPathMap with err | rootFSPath
    · simp [lrpRequest?, hpath] at hp
    · simp only [lrpRequest?, hpath, Option.map_some, Option.some.injEq] at hp
      subst hp
      exact ⟨hlrp, instanceGuid, rootFSPath, rfl⟩

/-- A task's request is made from the task and a path; its guid is the task's own. -/
theorem request_of_mem_sentTasks {C : Cell} {tasks : List Task} {p : Task × AllocationRequest}
    (h : p ∈ sentTasks C tasks) : ∃ rootFSPath, p.2 = taskRequest p.1 rootFSPath := by
  obtain ⟨task, -, hp⟩ := List.mem_filterMap.mp h
  rcases hpath : pathForRootFS C.ext task.placement.rootFs C.stackPathMap with err | rootFSPath
  · simp [taskRequest?, hpath] at hp
  · simp only [taskRequest?, hpath, Option.map_some, Option.some.injEq] at hp
    subst hp
    exact ⟨rootFSPath, rfl⟩

/-- Such an executor reports as failed only what it was asked for, which is the assumption of
the conservation law. -/
theorem truthfulTrace_of_answered {w : ExecutorState} {t : List RepEvent}
    (hans : executor.Answered w t) : TruthfulTrace t := by
  intro requests r hmem
  obtain ⟨t₁, t₂, rfl⟩ := List.append_of_mem hmem
  obtain ⟨-, hr, -⟩ := (Spec.answered_append ..).mp hans
  exact hr

/-- **Perform, seen from the executor**: the requests of two lists of work are placed,
and these are the work that is not returned as failed. -/
theorem perform_against_executor {C : Cell} {work failed : Work} {w : ExecutorState}
    {t : List RepEvent} (ht : (perform C work).Trace t failed) (hans : executor.Answered w t)
    (htasks : (work.tasks.map Task.taskGuid).Nodup) (hguids : (generatedGuids t).Nodup) :
    ∃ (keptL : Sent LRP) (keptT : Sent Task),
      executor.after w t =
        (w.allocate (keptL.map Prod.snd)).allocate (keptT.map Prod.snd) ∧
      (failed.lrps ++ keptL.map Prod.fst).Perm work.lrps ∧
      (failed.tasks ++ keptT.map Prod.fst).Perm work.tasks ∧
      (∀ p ∈ keptL, p.1 ∈ work.lrps ∧
        ∃ instanceGuid rootFSPath, p.2 = lrpRequest p.1 instanceGuid rootFSPath) ∧
      ∀ p ∈ keptT, ∃ rootFSPath, p.2 = taskRequest p.1 rootFSPath := by
  have htrue := truthfulTrace_of_answered hans
  simp only [perform, evacuating, Prog.call_bind, Prog.ret_bind] at ht
  obtain ⟨isEvacuating, t₀, rfl, hrest⟩ := Prog.trace_call.mp ht
  have hevacuating : isEvacuating = false := hans.1
  subst hevacuating
  rw [if_neg Bool.false_ne_true, Prog.trace_bind] at hrest
  obtain ⟨tl, t₁, failedLRPs, rfl, hl, hrest⟩ := hrest
  rw [Prog.trace_bind] at hrest
  obtain ⟨tt, t₂, failedTasks, rfl, htt, hrest⟩ := hrest
  obtain ⟨rfl, rfl⟩ := Prog.trace_ret.mp hrest
  rw [List.append_nil] at hans hguids htrue ⊢
  -- the guids are generated in the LRP half, so those of the half are all there are
  have hguidsl : (generatedGuids tl).Nodup := by
    refine List.Sublist.nodup ?_ hguids
    exact ((List.sublist_append_left tl tt).cons _).filterMap _
  obtain ⟨outcomes, rl, hlen, rfl, hconsl, -⟩ := trace_performLRPs hl hguidsl
    fun requests r hr => htrue requests r (by simp [hr])
  obtain ⟨rt, rfl, hconst, -⟩ := trace_performTasks htt htasks
    fun requests r hr => htrue requests r (by simp [hr])
  refine ⟨keptSent (sentLRPs C work.lrps outcomes) rl, keptSent (sentTasks C work.tasks) rt, ?_,
    ?_, ?_, fun p hp => of_mem_sentLRPs (mem_of_mem_keptSent hp),
    fun p hp => request_of_mem_sentTasks (mem_of_mem_keptSent hp)⟩
  · have hsentL : work.lrps = [] → sentLRPs C work.lrps outcomes = [] := fun h => by
      rw [h]
      rfl
    have hsentT : work.tasks = [] → sentTasks C work.tasks = [] := fun h => by
      rw [h]
      rfl
    rw [Spec.after_cons, Spec.after_append, Spec.after_append]
    rw [show executor.next w .evacuating false = w from rfl, after_guidEvents,
      after_allocationEvents w hsentL, after_allocationEvents _ hsentT]
  · rw [← left_eq_keptSent]
    exact hconsl
  · rw [← left_eq_keptSent]
    exact hconst

/-! ## The two sides agree

The comparison is up to the order of the lists, and up to what a container does not record. -/

/-- What the auctioneer and the cell compare of an LRP: the fields that survive in a
container. -/
def lrpView (lrp : LRP) : Models.ActualLRPKey × Int32 × Int32 :=
  (lrp.key, lrp.resource.memoryMB, lrp.resource.diskMB)

/-- What they compare of a task. -/
def taskView (task : Task) : String × String × Int32 × Int32 :=
  (task.taskGuid, task.domain, task.resource.memoryMB, task.resource.diskMB)

section

variable {x : External} {keptL : Sent LRP} {keptT : Sent Task}

/-- What the executor has left after placing the work is what the auctioneer has left
after adding it, in any order. -/
theorem resources_of_placed {placements : List Placement}
    (hplaced : placements.Perm
      ((keptL.map Prod.fst).map Sum.inl ++ (keptT.map Prod.fst).map Sum.inr))
    (hL : ∀ p ∈ keptL, ∃ instanceGuid rootFSPath, p.2 = lrpRequest p.1 instanceGuid rootFSPath)
    (hT : ∀ p ∈ keptT, ∃ rootFSPath, p.2 = taskRequest p.1 rootFSPath)
    (resources : ExecutorResources) :
    (placements.map Placement.resource).foldl Resources.subtract (convertResources resources) =
      convertResources ((keptT.map Prod.snd).foldl lower
        ((keptL.map Prod.snd).foldl lower resources)) := by
  have hresL : ∀ p ∈ keptL, ∃ rootFSPath,
      p.2.resource = allocationResource p.1.resource rootFSPath := by
    intro p hp
    obtain ⟨instanceGuid, rootFSPath, hreq⟩ := hL p hp
    exact ⟨rootFSPath, by rw [hreq]; rfl⟩
  have hresT : ∀ p ∈ keptT, ∃ rootFSPath,
      p.2.resource = allocationResource p.1.resource rootFSPath := by
    intro p hp
    obtain ⟨rootFSPath, hreq⟩ := hT p hp
    exact ⟨rootFSPath, by rw [hreq]; rfl⟩
  -- subtraction does not depend on the order, so the LRPs can be taken first
  rw [foldl_subtract_perm (hplaced.map Placement.resource), List.map_append, List.foldl_append,
    @convertResources_foldl_lower _ keptT Task.resource hresT,
    @convertResources_foldl_lower _ keptL LRP.resource hresL]
  simp only [List.map_map]
  rfl

/-- The LRPs among the work placed, whatever the order in which LRPs and tasks were mixed. -/
theorem lrps_of_placed {placements : List Placement} {lrps : List LRP} {tasks : List Task}
    (hplaced : placements.Perm (lrps.map Sum.inl ++ tasks.map Sum.inr)) :
    (placements.filterMap Sum.getLeft?).Perm lrps := by
  refine (hplaced.filterMap _).trans (List.Perm.of_eq ?_)
  simp [List.filterMap_map, Function.comp_def]

/-- The tasks among the work placed, in whatever order it was placed. -/
theorem tasks_of_placed {placements : List Placement} {lrps : List LRP} {tasks : List Task}
    (hplaced : placements.Perm (lrps.map Sum.inl ++ tasks.map Sum.inr)) :
    (placements.filterMap Sum.getRight?).Perm tasks := by
  refine (hplaced.filterMap _).trans (List.Perm.of_eq ?_)
  simp [List.filterMap_map, Function.comp_def]

/-- The new containers show exactly the LRPs placed: those of LRPs each show one, and those of
tasks none. -/
theorem view_lrps_of_containers
    (hL : ∀ p ∈ keptL, x.validateKey p.1.key = none ∧
      ∃ instanceGuid rootFSPath, p.2 = lrpRequest p.1 instanceGuid rootFSPath)
    (hT : ∀ p ∈ keptT, ∃ rootFSPath, p.2 = taskRequest p.1 rootFSPath) :
    ((((keptL.map Prod.snd).map AllocationRequest.container ++
      (keptT.map Prod.snd).map AllocationRequest.container).filterMap (containerLRP x)).map
        lrpView) = (keptL.map Prod.fst).map lrpView := by
  have hlrps : ((keptL.map Prod.snd).map AllocationRequest.container).filterMap (containerLRP x) =
      keptL.map fun p => ⟨p.1.key, ⟨[], [], ""⟩,
        ⟨p.1.resource.memoryMB, p.1.resource.diskMB, 0⟩⟩ := by
    rw [List.map_map, List.filterMap_map, ← List.filterMap_eq_map]
    apply List.filterMap_congr
    intro p hp
    obtain ⟨hkey, instanceGuid, rootFSPath, hreq⟩ := hL p hp
    simp only [Function.comp_apply, hreq, containerLRP_lrpRequest hkey]
  have htasks : ((keptT.map Prod.snd).map AllocationRequest.container).filterMap
      (containerLRP x) = [] := by
    rw [List.map_map, List.filterMap_map, List.filterMap_eq_nil_iff]
    intro p hp
    obtain ⟨rootFSPath, hreq⟩ := hT p hp
    simp only [Function.comp_apply, hreq, containerLRP_taskRequest]
  rw [List.filterMap_append, hlrps, htasks, List.append_nil, List.map_map, List.map_map]
  rfl

/-- The containers show exactly the tasks placed, each with what it was sent with. -/
theorem view_tasks_of_containers
    (hL : ∀ p ∈ keptL, ∃ instanceGuid rootFSPath, p.2 = lrpRequest p.1 instanceGuid rootFSPath)
    (hT : ∀ p ∈ keptT, ∃ rootFSPath, p.2 = taskRequest p.1 rootFSPath) :
    ((((keptL.map Prod.snd).map AllocationRequest.container ++
      (keptT.map Prod.snd).map AllocationRequest.container).filterMap containerTask).map
        taskView) = (keptT.map Prod.fst).map taskView := by
  have hlrps : ((keptL.map Prod.snd).map AllocationRequest.container).filterMap
      containerTask = [] := by
    rw [List.map_map, List.filterMap_map, List.filterMap_eq_nil_iff]
    intro p hp
    obtain ⟨instanceGuid, rootFSPath, hreq⟩ := hL p hp
    simp only [Function.comp_apply, hreq, containerTask_lrpRequest]
  have htasks : ((keptT.map Prod.snd).map AllocationRequest.container).filterMap containerTask =
      keptT.map fun p => ⟨p.1.taskGuid, p.1.domain, ⟨[], [], ""⟩,
        ⟨p.1.resource.memoryMB, p.1.resource.diskMB, 0⟩⟩ := by
    rw [List.map_map, List.filterMap_map, ← List.filterMap_eq_map]
    apply List.filterMap_congr
    intro p hp
    obtain ⟨rootFSPath, hreq⟩ := hT p hp
    simp only [Function.comp_apply, hreq, containerTask_taskRequest]
  rw [List.filterMap_append, hlrps, htasks, List.nil_append, List.map_map, List.map_map]
  rfl

end

/-- **The auctioneer's prediction refines the cell's own accounting.** Between two
states the cell performs some work and nothing else happens to the executor. Adding
exactly the work not returned as failed to the first state, in any order, gives the
second one: the same available resources and starting containers, the same LRPs and
tasks as far as they are compared, and the same other fields. -/
theorem prediction_refines_accounting (C : Cell) (work failed : Work) (w : ExecutorState)
    (t₁ t₂ t₃ : List RepEvent) (s s' : CellState) (healthy healthy' : Bool)
    (h₁ : (state C).Trace t₁ (.ok (s, healthy))) (h₂ : (perform C work).Trace t₂ failed)
    (h₃ : (state C).Trace t₃ (.ok (s', healthy')))
    (hexec : executor.Answered w (t₁ ++ (t₂ ++ t₃)))
    (hkeys : ∀ lrp ∈ work.lrps, C.ext.validateKey lrp.key = none)
    (htasks : (work.tasks.map Task.taskGuid).Nodup) (hguids : (generatedGuids t₂).Nodup)
    (kept : Work) (hlrps : (failed.lrps ++ kept.lrps).Perm work.lrps)
    (hkept : (failed.tasks ++ kept.tasks).Perm work.tasks) (placements : List Placement)
    (hplace : placements.Perm (kept.lrps.map Sum.inl ++ kept.tasks.map Sum.inr)) :
    (placements.foldl CellState.add s).availableResources = s'.availableResources ∧
    (placements.foldl CellState.add s).startingContainerCount = s'.startingContainerCount ∧
    ((placements.foldl CellState.add s).lrps.map lrpView).Perm (s'.lrps.map lrpView) ∧
    ((placements.foldl CellState.add s).tasks.map taskView).Perm (s'.tasks.map taskView) ∧
    { placements.foldl CellState.add s with
      availableResources := s'.availableResources
      startingContainerCount := s'.startingContainerCount
      lrps := s'.lrps
      tasks := s'.tasks } = s' := by
  obtain ⟨hans₁, hans⟩ := (Spec.answered_append ..).mp hexec
  obtain ⟨hans₂, hans₃⟩ := (Spec.answered_append ..).mp hans
  obtain ⟨hafter, containers, hcontainers, rfl⟩ := state_of_executor h₁ hans₁
  rw [hafter] at hans₂ hans₃
  obtain ⟨keptL, keptT, hw, hL, hT, hreqL, hreqT⟩ :=
    perform_against_executor h₂ hans₂ htasks hguids
  rw [hw] at hans₃
  obtain ⟨-, containers', hcontainers', rfl⟩ := state_of_executor h₃ hans₃
  -- the work kept is the work placed
  have hkeptL : kept.lrps.Perm (keptL.map Prod.fst) :=
    (List.perm_append_left_iff failed.lrps).mp (hlrps.trans hL.symm)
  have hkeptT : kept.tasks.Perm (keptT.map Prod.fst) :=
    (List.perm_append_left_iff failed.tasks).mp (hkept.trans hT.symm)
  have hplaced : placements.Perm
      ((keptL.map Prod.fst).map Sum.inl ++ (keptT.map Prod.fst).map Sum.inr) :=
    hplace.trans ((hkeptL.map _).append (hkeptT.map _))
  -- the new list of containers is the old one with those of the work placed
  have hnew : containers'.Perm (containers ++
      ((keptL.map Prod.snd).map AllocationRequest.container ++
        (keptT.map Prod.snd).map AllocationRequest.container)) := by
    apply hcontainers'.trans
    simp only [ExecutorState.allocate, List.append_assoc]
    exact hcontainers.symm.append_right _
  have hvalidL : ∀ p ∈ keptL, C.ext.validateKey p.1.key = none ∧
      ∃ instanceGuid rootFSPath, p.2 = lrpRequest p.1 instanceGuid rootFSPath := fun p hp =>
    ⟨hkeys p.1 (hreqL p hp).1, (hreqL p hp).2⟩
  rw [addAll_eq]
  simp only [cellState, tally_eq, List.nil_append]
  refine ⟨?_, ?_, ?_, ?_, rfl⟩
  · exact resources_of_placed hplaced (fun p hp => (hreqL p hp).2) hreqT w.remaining
  · have hlen : placements.length = keptL.length + keptT.length := by
      rw [hplaced.length_eq]
      simp
    rw [hnew.countP_eq, List.countP_append, List.countP_append, countP_starting_containers,
      countP_starting_containers, List.length_map, List.length_map, ← hlen, Int64.ofNat_add]
    simp only [Int64.zero_add]
  · rw [List.map_append]
    refine List.Perm.trans ?_ (((hnew.filterMap (containerLRP C.ext)).map lrpView).symm)
    rw [List.filterMap_append, List.map_append, view_lrps_of_containers hvalidL hreqT]
    exact ((lrps_of_placed hplaced).map lrpView).append_left _
  · rw [List.map_append]
    refine List.Perm.trans ?_ (((hnew.filterMap containerTask).map taskView).symm)
    rw [List.filterMap_append, List.map_append,
      view_tasks_of_containers (fun p hp => (hreqL p hp).2) hreqT]
    exact ((tasks_of_placed hplaced).map taskView).append_left _

/-! ### A concrete prediction

The sample work again: one LRP is placed, one task is refused. -/

/-- The executor before: one container, room for more. The container is of no known lifecycle,
so it is not listed. -/
def sampleExecutor : ExecutorState where
  containers := [sampleContainer "a"]
  remaining := ⟨1000, 1000, 9⟩
  total := ⟨1000, 1000, 10⟩
  drivers := []

/-- The calls of `State` when the executor is in the state `w`. -/
def sampleStateTrace (w : ExecutorState) : List RepEvent :=
  [⟨.listContainers, .ok w.containers⟩, ⟨.totalResources, .ok w.total⟩,
    ⟨.remainingResources, .ok w.remaining⟩, ⟨.volumeDrivers, .ok w.drivers⟩,
    ⟨.evacuating, false⟩, ⟨.healthy, true⟩]

/-- With such calls `State` returns what it computes from the answers. -/
theorem trace_sampleStateTrace (w : ExecutorState) : (state Cell.sample).Trace (sampleStateTrace w)
    (.ok (cellState Cell.sample w.containers w.total w.remaining w.drivers false, true)) :=
  .call _ (.call _ (.call _ (.call _ (.call _ (.call _ (.ret _))))))

/-- The executor after: the LRP's container has been reserved. -/
theorem after_sampleTrace :
    executor.after sampleExecutor sampleTrace = sampleExecutor.allocate sampleRequests.1 := by
  rfl

/-- The auctioneer predicts the state the sample cell reports next. -/
theorem prediction_of_sampleWork :
    ∃ s s' : CellState, s'.availableResources = ⟨872, 744, 8⟩ ∧ s'.startingContainerCount = 1 ∧
      (sampleWork.lrps.foldl CellState.addLRP s).availableResources = s'.availableResources ∧
      (sampleWork.lrps.foldl CellState.addLRP s).startingContainerCount =
        s'.startingContainerCount ∧
      ((sampleWork.lrps.foldl CellState.addLRP s).lrps.map lrpView).Perm (s'.lrps.map lrpView) := by
  let w := sampleExecutor.allocate sampleRequests.1
  have hplain : ∀ w : ExecutorState, executor.Answered w (sampleStateTrace w) := fun w =>
    ⟨List.Perm.refl _, rfl, rfl, rfl, rfl, trivial, trivial⟩
  -- the state, the work and the state again, all answered by one executor
  have hans : executor.Answered sampleExecutor (sampleStateTrace sampleExecutor ++
      (sampleTrace ++ sampleStateTrace w)) := by
    refine (Spec.answered_append ..).mpr ⟨hplain _, (Spec.answered_append ..).mpr ⟨?_, ?_⟩⟩
    · have htrue₁ := truthfulTrace_sampleTrace sampleRequests.1 (.ok []) (by simp [sampleTrace])
      have htrue₂ := truthfulTrace_sampleTrace sampleRequests.2
        (.ok (sampleRequests.2.map fun req => ⟨req, "insufficient resources"⟩))
        (by simp [sampleTrace])
      exact ⟨rfl, trivial, htrue₁, htrue₂, trivial⟩
    · rw [show executor.after (executor.after sampleExecutor (sampleStateTrace sampleExecutor))
        sampleTrace = w from after_sampleTrace]
      exact hplain w
  obtain ⟨havailable, hcount, hlrps, -⟩ := prediction_refines_accounting Cell.sample sampleWork
    ⟨[], sampleWork.tasks⟩ sampleExecutor _ _ _ _ _ true true (trace_sampleStateTrace _)
    trace_sampleWork (trace_sampleStateTrace w) hans (by decide) (by decide) (by decide)
    ⟨sampleWork.lrps, []⟩ (List.Perm.refl _) (by simp) (sampleWork.lrps.map Sum.inl) (by simp)
  exact ⟨_, _, by decide, by decide, havailable, hcount, hlrps⟩

end CellRep
