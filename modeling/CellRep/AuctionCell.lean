import CellRep.Calls

/-!
# The auction cell

`auction_cell_rep.go`: the two requests the auctioneer makes of a cell. `state` turns
the executor's containers into a `CellState`; `perform` turns work into allocation
requests and reports what could not be placed.

The two halves of `perform` (LRPs, tasks) differ in how requests are made and in when
the map back from guids is filled; what is done with the executor's answer is the
same, and is `allocate`.
-/

namespace CellRep

open Models (ActualLRPKey)
open Executor (Container AllocationRequest AllocationFailure ExecutorResources)

/-! ## Root filesystems

The images a cell announces and the paths it runs them from are computed by two functions,
from the same map of stacks. That they agree is not obvious from the code and is shown in a
module of its own. -/

/-- `ErrPreloadedRootFSNotFound`, for a stack the cell has no filesystem of. -/
def errPreloadedRootFSNotFound : Err := .text "preloaded rootfs path not found"

/-- `rootFSProviders`: the arbitrary schemes first, then the two preloaded ones over them. A
configured provider named `preloaded` is therefore replaced by the fixed set. -/
def rootFSProviders (preloaded : GoMap String String) (arbitrary : List String) :
    RootFSProviders :=
  let providers : RootFSProviders :=
    GoMap.putAll id (fun _ => some RootFSProvider.arbitrary) ∅ arbitrary
  (providers.insert Models.preloadedRootFSScheme
    (some (newFixedSetRootFSProvider preloaded.keys))).insert Models.preloadedOCIRootFSScheme
      (some (newFixedSetRootFSProvider preloaded.keys))

/-- `PathForRootFS`. An empty image stays empty, a preloaded one becomes the path of its
stack, one with layers keeps its scheme and its query around that path, and anything else is
passed through as it is. -/
def pathForRootFS (x : External) (rootFS : String) (stackPathMap : GoMap String String) :
    Except Err String :=
  if rootFS = "" then .ok rootFS
  else
    match x.parseURL rootFS with
    | .error err => .error err
    | .ok url =>
      if url.scheme = Models.preloadedRootFSScheme then
        match stackPathMap.lookup url.opaque_ with
        | none => .error errPreloadedRootFSNotFound
        | some path => .ok path
      else if url.scheme = Models.preloadedOCIRootFSScheme then
        match stackPathMap.lookup url.opaque_ with
        | none => .error errPreloadedRootFSNotFound
        | some path => .ok s!"{url.scheme}:{path}?{url.rawQuery}"
      else .ok rootFS

/-! ## State

The auctioneer gets a list of what runs here and of what is still free. The two come from
different calls, so they need not belong to the same moment. -/

/-- `containerIsStarting`: reserved, initialising or created, that is, not running yet. -/
def containerIsStarting (container : Container) : Bool :=
  container.state = .reserved ∨ container.state = .initializing ∨ container.state = .created

/-- What the loop of `State` has gathered so far. The count includes containers that neither
list mentions. -/
structure Tally where
  lrps : List LRP
  tasks : List Task
  startingContainerCount : Int64

/-- One container of the loop: counted if it is starting, listed if its tags say what it is. A
container with tags that cannot be decoded is counted all the same, and constraints of its
placement are not kept. -/
def tallyContainer (x : External) (acc : Tally) (container : Container) : Tally :=
  let acc : Tally :=
    if containerIsStarting container then
      { acc with startingContainerCount := acc.startingContainerCount + 1 }
    else acc
  match container.tags with
  | none => acc
  | some _ =>
    let resource : Resource :=
      ⟨container.resource.memoryMB.toInt32, container.resource.diskMB.toInt32, 0⟩
    let placementConstraint : PlacementConstraint := ⟨[], [], ""⟩
    if container.tags.get lifecycleTag = lrpLifecycle then
      match actualLRPKeyFromTags x container.tags with
      | .error _ => acc
      | .ok key => { acc with lrps := acc.lrps ++ [⟨key, placementConstraint, resource⟩] }
    else if container.tags.get lifecycleTag = taskLifecycle then
      { acc with
        tasks := acc.tasks ++
          [⟨container.guid, container.tags.get domainTag, placementConstraint, resource⟩] }
    else acc

/-- `convertResources`: memory and disk are narrowed to 32 bits, without a check; the number
of containers stays as it is. -/
def convertResources (resources : ExecutorResources) : Resources :=
  ⟨resources.memoryMB.toInt32, resources.diskMB.toInt32, resources.containers⟩

/-- The cell state computed from what the executor and the reporter answered. Everything else
in it is configuration. -/
def cellState (C : Cell) (containers : List Container) (total available : ExecutorResources)
    (drivers : List String) (isEvacuating : Bool) : CellState :=
  let tally := containers.foldl (tallyContainer C.ext) ⟨[], [], 0⟩
  { rootFSProviders := C.rootFSProviders
    availableResources := convertResources available
    totalResources := convertResources total
    lrps := tally.lrps
    tasks := tally.tasks
    startingContainerCount := tally.startingContainerCount
    zone := C.zone
    evacuating := isEvacuating
    volumeDrivers := drivers
    placementTags := C.placementTags
    optionalPlacementTags := C.optionalPlacementTags }

/-- `AuctionCellRep.State`: the state and whether the cell is healthy. The first error of the
four reads ends it; the health is asked for last and does not change the state. -/
def state (C : Cell) : RepM (Except Err (CellState × Bool)) := do
  match ← Client.listContainers with
  | .error err => return .error err
  | .ok containers =>
    match ← Client.totalResources with
    | .error err => return .error err
    | .ok totalResources =>
      match ← Client.remainingResources with
      | .error err => return .error err
      | .ok availableResources =>
        match ← Client.volumeDrivers with
        | .error err => return .error err
        | .ok volumeDrivers =>
          let isEvacuating ← evacuating
          let healthy ← Client.healthy
          return .ok (cellState C containers totalResources availableResources volumeDrivers
            isEvacuating, healthy)

/-! ## Perform

Each half turns its list into requests, sends them in one call, and finds out from the
failures which work they were for. Work can fail in three places: it has no guid or no path
and is never sent, the executor refuses its request, or the whole call fails. -/

/-- What a list of work was translated into: the requests, the map back from their
guids, and the work that could not be translated. -/
structure Translation (α : Type) where
  requests : List AllocationRequest
  byGuid : GoMap String α
  untranslated : List α

/-- `executor.NewResource` of a piece of work: 32-bit needs are widened, which is exact. -/
def allocationResource (res : Resource) (rootFSPath : String) : Executor.Resource :=
  ⟨res.memoryMB.toInt64, res.diskMB.toInt64, res.maxPids.toInt64, rootFSPath⟩

/-- The tags of an LRP's container. They hold everything that is read back later: both guids,
the index, the domain and the kind of work. -/
def lrpTags (lrp : LRP) (instanceGuid : String) : GoMap String String :=
  (((((∅ : GoMap String String).insert domainTag lrp.key.domain).insert
    processGuidTag lrp.key.processGuid).insert
    processIndexTag (Strconv.itoa lrp.key.index.toInt64)).insert
    lifecycleTag lrpLifecycle).insert instanceGuidTag instanceGuid

/-- The allocation request for an LRP, under the container guid of its instance. -/
def lrpRequest (lrp : LRP) (instanceGuid rootFSPath : String) : AllocationRequest :=
  ⟨lrpContainerGuid lrp.key.processGuid instanceGuid,
    allocationResource lrp.resource rootFSPath, some (lrpTags lrp instanceGuid)⟩

/-- The loop of `lrpsToAllocationRequest`. A fresh guid is generated for every LRP, also for
one whose image then turns out to have no path; that guid is not used. -/
def lrpsToAllocationRequestLoop (C : Cell) (acc : Translation LRP) :
    List LRP → RepM (Translation LRP)
  | [] => return acc
  | lrp :: lrps => do
    match ← generateInstanceGuid with
    | .error _ =>
      lrpsToAllocationRequestLoop C { acc with untranslated := acc.untranslated ++ [lrp] } lrps
    | .ok instanceGuid =>
      match pathForRootFS C.ext lrp.placement.rootFs C.stackPathMap with
      | .error _ =>
        lrpsToAllocationRequestLoop C { acc with untranslated := acc.untranslated ++ [lrp] } lrps
      | .ok rootFSPath =>
        let request := lrpRequest lrp instanceGuid rootFSPath
        lrpsToAllocationRequestLoop C
          { acc with
            requests := acc.requests ++ [request]
            byGuid := acc.byGuid.insert request.guid lrp } lrps

/-- `lrpsToAllocationRequest`: requests for the LRPs that can be placed, and the LRPs that
cannot. -/
def lrpsToAllocationRequest (C : Cell) (lrps : List LRP) : RepM (Translation LRP) :=
  lrpsToAllocationRequestLoop C ⟨[], ∅, []⟩ lrps

/-- The tags of a task's container: the kind of work and the domain. The guid of a task is the
guid of its container, so it is not repeated here. -/
def taskTags (task : Task) : GoMap String String :=
  ((∅ : GoMap String String).insert lifecycleTag taskLifecycle).insert domainTag task.domain

/-- The allocation request for a task, under the guid of the task itself. -/
def taskRequest (task : Task) (rootFSPath : String) : AllocationRequest :=
  ⟨task.taskGuid, allocationResource task.resource rootFSPath, some (taskTags task)⟩

/-- The loop of `tasksToAllocationRequests`; a task is in the map even when its translation
fails. The map could then name a task for a request that was never made, which is harmless as
long as the executor names only requests it got. -/
def tasksToAllocationRequestsLoop (C : Cell) (acc : Translation Task) :
    List Task → Translation Task
  | [] => acc
  | task :: tasks =>
    let acc := { acc with byGuid := acc.byGuid.insert task.taskGuid task }
    match pathForRootFS C.ext task.placement.rootFs C.stackPathMap with
    | .error _ =>
      tasksToAllocationRequestsLoop C { acc with untranslated := acc.untranslated ++ [task] } tasks
    | .ok rootFSPath =>
      tasksToAllocationRequestsLoop C
        { acc with requests := acc.requests ++ [taskRequest task rootFSPath] } tasks

/-- `tasksToAllocationRequests`: requests for the tasks that can be placed, and the tasks that
cannot. -/
def tasksToAllocationRequests (C : Cell) (tasks : List Task) : Translation Task :=
  tasksToAllocationRequestsLoop C ⟨[], ∅, []⟩ tasks

/-- The work named by the executor's failures, found through the map from guids. A failure for
a guid that is not in the map is logged and skipped. -/
def failuresOf {α : Type} (byGuid : GoMap String α) (failures : List AllocationFailure) :
    List α :=
  failures.filterMap fun failure => byGuid.lookup failure.request.guid

/-- The second half of either kind: request the allocation and gather the failed work. A
failed call overwrites what was gathered with the whole input, so nothing is reported twice.
The call is made even when there is no request left to make. -/
def allocate {α : Type} (input : List α) (tr : Translation α) : RepM (List α) := do
  match ← Client.allocateContainers tr.requests with
  | .error _ => return input
  | .ok failures => return tr.untranslated ++ failuresOf tr.byGuid failures

/-- The LRP half of `Perform`; without LRPs no call is made. -/
def performLRPs (C : Cell) (lrps : List LRP) : RepM (List LRP) :=
  match lrps with
  | [] => return []
  | lrp :: lrps => do
    let tr ← lrpsToAllocationRequest C (lrp :: lrps)
    allocate (lrp :: lrps) tr

/-- The task half of `Perform`; without tasks no call is made. -/
def performTasks (C : Cell) (tasks : List Task) : RepM (List Task) :=
  match tasks with
  | [] => return []
  | task :: tasks => allocate (task :: tasks) (tasksToAllocationRequests C (task :: tasks))

/-- `AuctionCellRep.Perform`: returns the work that failed. The evacuation context is looked
at once, before anything else; an evacuation that is asked for a moment later does not stop
the allocations of this call. -/
def perform (C : Cell) (work : Work) : RepM Work := do
  let isEvacuating ← evacuating
  if isEvacuating then return work
  else
    let failedLRPs ← performLRPs C work.lrps
    let failedTasks ← performTasks C work.tasks
    return ⟨failedLRPs, failedTasks⟩

end CellRep
