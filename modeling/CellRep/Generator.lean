import CellRep.Processors

/-!
# Operations and the bulk sync

`generator/operation.go`, `generator/generator.go` and the sync of
`harmonizer/bulker.go`. `execute` is what each operation does when the queue runs it;
`batchOperations` compares what the executor has with what the BBS believes and makes
one operation for every guid either of them knows; `sync` queues them.

The three reads of a batch run concurrently and walks over maps are unordered, so a
batch depends on a `Schedule`: the order in which the reads happen, the order in
which their errors arrive, and the orders of the walks.
-/

namespace CellRep

open Models (ActualLRP ActualLRPGroup)
open Executor (Container)

/-! ## Operations

An operation is for one guid, and the queue never runs two operations of the same key at the
same time. Operations of different keys do run at the same time, and so do operations and
everything else in the rep. -/

/-- `Key`: what the queue orders operations by. It is the guid of the container in all cases,
for a residual operation the one the container would have. -/
def Operation.key : Operation → String
  | .container guid => guid
  | .residualInstance _ instanceKey => instanceKey.instanceGuid
  | .residualEvacuating _ instanceKey => instanceKey.instanceGuid
  | .residualJoint _ instanceKey => instanceKey.instanceGuid
  | .residualTask taskGuid => taskGuid

/-- `ContainerOperation.Execute`: dispatch on the lifecycle tag. A container that has gone
meanwhile, or is nobody's, is left alone; the error is not looked at. -/
def executeContainer (C : Cell) (guid : String) : RepM Unit := do
  match ← Delegate.getContainer guid with
  | none => return
  | some container =>
    let lifecycle := container.tags.get lifecycleTag
    if lifecycle = lrpLifecycle then lrpProcess C container
    else if lifecycle = taskLifecycle then TaskProcessor.process C container
    else return

/-- `Execute` of each operation. The residual ones first look whether the container has turned
up after all, since the batch that made them may be old by the time they run. None of them
looks at the result of what it removes. -/
def Operation.execute (C : Cell) : Operation → RepM Unit
  | .container guid => executeContainer C guid
  | .residualInstance key instanceKey => do
    match ← Delegate.getContainer
        (lrpContainerGuid key.processGuid instanceKey.instanceGuid) with
    | some _ => return
    | none =>
      let _ ← Bbs.removeActualLRP key.processGuid key.index.toInt64
        ⟨instanceKey.instanceGuid, instanceKey.cellId⟩
      return
  | .residualEvacuating key instanceKey => do
    match ← Delegate.getContainer
        (lrpContainerGuid key.processGuid instanceKey.instanceGuid) with
    | some _ => return
    | none =>
      let _ ← Bbs.removeEvacuatingActualLRP key instanceKey
      return
  | .residualJoint key instanceKey => do
    match ← Delegate.getContainer
        (lrpContainerGuid key.processGuid instanceKey.instanceGuid) with
    | some _ => return
    | none =>
      let _ ← Bbs.removeActualLRP key.processGuid key.index.toInt64 instanceKey
      let _ ← Bbs.removeEvacuatingActualLRP ⟨key.processGuid, key.index, key.domain⟩
        ⟨instanceKey.instanceGuid, instanceKey.cellId⟩
      return
  | .residualTask taskGuid => do
    match ← Delegate.getContainer taskGuid with
    | some _ => return
    | none =>
      let _ ← Bbs.failTask taskGuid TaskProcessor.reasonMissingContainer
      return

/-! ## The three reads

The source starts one goroutine for each read and waits for all of them. Each stores its
result in a variable of its own, so their order shows only in which error is returned if more
than one of them fails. -/

/-- The reads of a batch: of the executor's containers, of the BBS's records, of its tasks. -/
inductive Read : Type where
  | containers : Read
  | lrps : Read
  | tasks : Read
  deriving DecidableEq

/-- The reads, in the order the source starts them. -/
def Read.all : List Read := [.containers, .lrps, .tasks]

/-- The answers to the reads, as the variables hold them when all goroutines are done. -/
structure Found where
  containers : Except Err (List Container)
  groups : Except Err (List ActualLRPGroup)
  tasks : Except Err (List Models.Task)

/-- Before any read has answered, nothing is found and nothing has failed. -/
def Found.empty : Found := ⟨.ok [], .ok [], .ok []⟩

/-- One read: a single call, whose answer goes to its variable. -/
def readOne (C : Cell) (found : Found) : Read → RepM Found
  | .containers => do
    let foundContainers ← Client.listContainers
    return { found with containers := foundContainers }
  | .lrps => do
    let groups ← Bbs.actualLRPGroups C.cellID
    return { found with groups := groups }
  | .tasks => do
    let foundTasks ← Bbs.tasksByCellID C.cellID
    return { found with tasks := foundTasks }

/-- The reads in the given order. None of them is skipped after another one has failed. -/
def readAll (C : Cell) (found : Found) : List Read → RepM Found
  | [] => return found
  | r :: rs => do
    let found ← readOne C found r
    readAll C found rs

/-- The error a read sends, with the text that says which read it was. The text ends up in the
log only, since `sync` returns nothing. -/
def Found.error (x : External) (found : Found) : Read → Option Err
  | .containers =>
    match found.containers with
    | .error err => some (.text s!"failed to list containers: {x.errorText err}")
    | .ok _ => none
  | .lrps =>
    match found.groups with
    | .error err => some (.text s!"failed to retrieve lrps: {x.errorText err}")
    | .ok _ => none
  | .tasks =>
    match found.tasks with
    | .error err => some (.text s!"failed to retrieve tasks: {x.errorText err}")
    | .ok _ => none

/-! ## The batch

What was found is sorted into four maps by guid, and the batch is filled from them in a fixed
order of preference: containers, instance records, evacuating records, tasks. A guid gets one
operation, from the first map that has it. -/

/-- What the source leaves open in a batch. The proofs that the orders are permutations are
fields, so that every `Schedule` is one the source can have, and the results about batches are
for all of them. -/
structure Schedule where
  /-- the order in which the reads happen -/
  reads : List Read
  reads_perm : reads.Perm Read.all
  /-- the order in which their errors arrive -/
  sends : List Read
  sends_perm : sends.Perm Read.all
  /-- the orders of the walks over the four maps and over the batch -/
  visitContainers : (m : GoMap String Container) → GoMap.Visit m
  visitInstances : (m : GoMap String ActualLRP) → GoMap.Visit m
  visitEvacuating : (m : GoMap String ActualLRP) → GoMap.Visit m
  visitTasks : (m : GoMap String Models.Task) → GoMap.Visit m
  visitBatch : (m : GoMap String Operation) → GoMap.Visit m

/-- The schedule that follows the text of the source, for concrete runs. -/
def Schedule.inOrder : Schedule where
  reads := Read.all
  reads_perm := List.Perm.refl _
  sends := Read.all
  sends_perm := List.Perm.refl _
  visitContainers := GoMap.Visit.stored
  visitInstances := GoMap.Visit.stored
  visitEvacuating := GoMap.Visit.stored
  visitTasks := GoMap.Visit.stored
  visitBatch := GoMap.Visit.stored

/-- The guid a record's container goes by, which is the key of the two maps of records. -/
def recordGuid (lrp : ActualLRP) : String :=
  lrpContainerGuid lrp.key.processGuid lrp.instanceKey.instanceGuid

/-- The instance records of the groups, in their order; a group may have none. -/
def instanceRecords (groups : List ActualLRPGroup) : List ActualLRP :=
  groups.filterMap ActualLRPGroup.instance_

/-- The evacuating records of the groups, in their order; a group may have none. -/
def evacuatingRecords (groups : List ActualLRPGroup) : List ActualLRP :=
  groups.filterMap ActualLRPGroup.evacuating

/-- The operation for an instance record without a container. If an evacuating record goes by
the same guid, one joint operation removes both records. -/
def instanceOperation (evacuatingLRPs : GoMap String ActualLRP) (guid : String)
    (lrp : ActualLRP) : Operation :=
  if guid ∈ evacuatingLRPs then .residualJoint lrp.key lrp.instanceKey
  else .residualInstance lrp.key lrp.instanceKey

/-- The second part of `BatchOperations`: four walks, each leaving alone what the ones before
it have claimed. Records are put into the maps by guid first, where a later record of the same
guid replaces an earlier one. -/
def assemble (s : Schedule) (foundContainers : List Container) (groups : List ActualLRPGroup)
    (foundTasks : List Models.Task) : GoMap String Operation :=
  let containers : GoMap String Container := GoMap.putAll Container.guid id ∅ foundContainers
  let instanceLRPs : GoMap String ActualLRP :=
    GoMap.putAll recordGuid id ∅ (instanceRecords groups)
  let evacuatingLRPs : GoMap String ActualLRP :=
    GoMap.putAll recordGuid id ∅ (evacuatingRecords groups)
  let tasks : GoMap String Models.Task := GoMap.putAll Models.Task.taskGuid id ∅ foundTasks
  let batch : GoMap String Operation :=
    GoMap.putAll (fun e => e.1) (fun e => .container e.1) ∅
      (s.visitContainers containers).entries
  let batch := GoMap.fill (instanceOperation evacuatingLRPs) batch (s.visitInstances instanceLRPs)
  let batch := GoMap.fill (fun _ lrp => .residualEvacuating lrp.key lrp.instanceKey) batch
    (s.visitEvacuating evacuatingLRPs)
  GoMap.fill (fun guid _ => .residualTask guid) batch (s.visitTasks tasks)

/-- The first error to arrive, or the batch made of what was found. With an error there is no
batch at all, also if the other reads succeeded. -/
def resolve (C : Cell) (s : Schedule) (found : Found) : Except Err (GoMap String Operation) :=
  match s.sends.findSome? (found.error C.ext) with
  | some err => .error err
  | none =>
    .ok (assemble s (found.containers.toOption.getD []) (found.groups.toOption.getD [])
      (found.tasks.toOption.getD []))

/-- `BatchOperations`: three reads, then no further call. Everything the batch knows of the
world it knows from these, and by the time it is executed the world may be another. -/
def batchOperations (C : Cell) (s : Schedule) : RepM (Except Err (GoMap String Operation)) := do
  let found ← readAll C Found.empty s.reads
  return resolve C s found

/-- Queue the operations one after the other, in the order of a walk over the batch. -/
def pushAll : List Operation → RepM Unit
  | [] => return
  | operation :: operations => do
    push operation
    pushAll operations

/-- `Bulker.sync`: a failed batch queues nothing, and the next sync tries again. -/
def sync (C : Cell) (s : Schedule) : RepM Unit := do
  match ← batchOperations C s with
  | .error _ => return
  | .ok ops => pushAll ((s.visitBatch ops).entries.map fun e => e.2)

end CellRep
