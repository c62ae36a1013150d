import CellRep.Prog
import CellRep.Conversion

/-!
# What the rep calls

Every effect of the rep is a call: to the executor's client, to the BBS client, to
the guid generator, the evacuation reporter and the operation queue. `Call` lists
them with their arguments, `Reply` says what each one is answered with, and `RepM` is
the programs over them. Errors and values a caller does not look at together are one
`Except`; where the code reads both, the reply is a pair.

A result file is read in steps of its own (`getFiles`, `tarNext`, `tarRead`): the
reader may answer with fewer bytes than asked for, or with an error.
-/

namespace CellRep

open Models (ActualLRPKey ActualLRPInstanceKey ActualLRPNetInfo)
open Executor (Container AllocationRequest AllocationFailure RunRequest ExecutorResources)

/-- The operations of `generator/operation.go`, by the data each one carries. An operation is
a value that can be queued; what it does is `Operation.execute`, and under which key the queue
takes it is `Operation.key`. -/
inductive Operation : Type where
  /-- `ContainerOperation` -/
  | container : String → Operation
  /-- `ResidualInstanceLRPOperation` -/
  | residualInstance : ActualLRPKey → ActualLRPInstanceKey → Operation
  /-- `ResidualEvacuatingLRPOperation` -/
  | residualEvacuating : ActualLRPKey → ActualLRPInstanceKey → Operation
  /-- `ResidualJointLRPOperation` -/
  | residualJoint : ActualLRPKey → ActualLRPInstanceKey → Operation
  /-- `ResidualTaskOperation` -/
  | residualTask : String → Operation
  deriving DecidableEq

/-- The calls of the rep, with the arguments the receiver gets to see. Loggers and contexts
are left out. A call that is written to a tar stream or a queue is one call here as well. -/
inductive Call : Type where
  -- the executor's client
  | getContainer (guid : String)
  | listContainers
  | allocateContainers (requests : List AllocationRequest)
  | runContainer (req : RunRequest)
  | stopContainer (guid : String)
  | deleteContainer (guid : String)
  | getFiles (guid filename : String)
  | tarNext
  | tarRead (size : ℕ)
  | totalResources
  | remainingResources
  | volumeDrivers
  | healthy
  -- the BBS client
  | actualLRPGroups (cellID : String)
  | tasksByCellID (cellID : String)
  | claimActualLRP (processGuid : String) (index : Int64) (instanceKey : ActualLRPInstanceKey)
  | startActualLRP (key : ActualLRPKey) (instanceKey : ActualLRPInstanceKey)
      (netInfo : ActualLRPNetInfo)
  | crashActualLRP (key : ActualLRPKey) (instanceKey : ActualLRPInstanceKey) (reason : String)
  | removeActualLRP (processGuid : String) (index : Int64) (instanceKey : ActualLRPInstanceKey)
  | removeEvacuatingActualLRP (key : ActualLRPKey) (instanceKey : ActualLRPInstanceKey)
  | evacuateClaimedActualLRP (key : ActualLRPKey) (instanceKey : ActualLRPInstanceKey)
  | evacuateRunningActualLRP (key : ActualLRPKey) (instanceKey : ActualLRPInstanceKey)
      (netInfo : ActualLRPNetInfo) (ttl : UInt64)
  | evacuateStoppedActualLRP (key : ActualLRPKey) (instanceKey : ActualLRPInstanceKey)
  | evacuateCrashedActualLRP (key : ActualLRPKey) (instanceKey : ActualLRPInstanceKey)
      (reason : String)
  | desiredLRPByProcessGuid (processGuid : String)
  | startTask (taskGuid cellID : String)
  | taskByGuid (taskGuid : String)
  | completeTask (taskGuid cellID : String) (failed : Bool) (failureReason : String)
      (result : List UInt8)
  | failTask (taskGuid reason : String)
  -- the cell itself
  | evacuating
  | generateInstanceGuid
  | push (operation : Operation)
  deriving DecidableEq

/-- What each call is answered with. `startTask` and the calls of an evacuation return a flag
and an error independently, and the code looks at both, so their replies are pairs and all
four combinations are possible. -/
@[reducible] def Reply : Call → Type
  | .getContainer _ => Except Err Container
  | .listContainers => Except Err (List Container)
  | .allocateContainers _ => Except Err (List AllocationFailure)
  | .runContainer _ => Option Err
  | .stopContainer _ => Option Err
  | .deleteContainer _ => Option Err
  | .getFiles _ _ => Option Err
  | .tarNext => Option Err
  | .tarRead _ => List UInt8 × Option Err
  | .totalResources => Except Err ExecutorResources
  | .remainingResources => Except Err ExecutorResources
  | .volumeDrivers => Except Err (List String)
  | .healthy => Bool
  | .actualLRPGroups _ => Except Err (List Models.ActualLRPGroup)
  | .tasksByCellID _ => Except Err (List Models.Task)
  | .claimActualLRP _ _ _ => Option Err
  | .startActualLRP _ _ _ => Option Err
  | .crashActualLRP _ _ _ => Option Err
  | .removeActualLRP _ _ _ => Option Err
  | .removeEvacuatingActualLRP _ _ => Option Err
  | .evacuateClaimedActualLRP _ _ => Bool × Option Err
  | .evacuateRunningActualLRP _ _ _ _ => Bool × Option Err
  | .evacuateStoppedActualLRP _ _ => Bool × Option Err
  | .evacuateCrashedActualLRP _ _ _ => Bool × Option Err
  | .desiredLRPByProcessGuid _ => Except Err Models.DesiredLRP
  | .startTask _ _ => Bool × Option Err
  | .taskByGuid _ => Except Err Models.Task
  | .completeTask _ _ _ _ _ => Option Err
  | .failTask _ _ => Option Err
  | .evacuating => Bool
  | .generateInstanceGuid => Except Err String
  | .push _ => Unit

/-- The programs of the rep: everything it does is a tree of these calls. -/
abbrev RepM : Type → Type := Prog Call Reply

/-- A call of the rep with its reply; traces of the rep are lists of these. -/
abbrev RepEvent : Type := Event Call Reply

/-! ## The executor's client

One program for each call, which makes the call and returns the reply. They are unfolded by
`simp`, so that a proof about a caller meets the bare calls. -/

namespace Client

@[simp] def getContainer (guid : String) : RepM (Except Err Container) :=
  Prog.call (.getContainer guid) Prog.ret

@[simp] def listContainers : RepM (Except Err (List Container)) :=
  Prog.call .listContainers Prog.ret

@[simp] def allocateContainers (requests : List AllocationRequest) :
    RepM (Except Err (List AllocationFailure)) :=
  Prog.call (.allocateContainers requests) Prog.ret

@[simp] def runContainer (req : RunRequest) : RepM (Option Err) :=
  Prog.call (.runContainer req) Prog.ret

@[simp] def stopContainer (guid : String) : RepM (Option Err) :=
  Prog.call (.stopContainer guid) Prog.ret

@[simp] def deleteContainer (guid : String) : RepM (Option Err) :=
  Prog.call (.deleteContainer guid) Prog.ret

@[simp] def getFiles (guid filename : String) : RepM (Option Err) :=
  Prog.call (.getFiles guid filename) Prog.ret

@[simp] def tarNext : RepM (Option Err) := Prog.call .tarNext Prog.ret

@[simp] def tarRead (size : ℕ) : RepM (List UInt8 × Option Err) :=
  Prog.call (.tarRead size) Prog.ret

@[simp] def totalResources : RepM (Except Err ExecutorResources) :=
  Prog.call .totalResources Prog.ret

@[simp] def remainingResources : RepM (Except Err ExecutorResources) :=
  Prog.call .remainingResources Prog.ret

@[simp] def volumeDrivers : RepM (Except Err (List String)) := Prog.call .volumeDrivers Prog.ret

@[simp] def healthy : RepM Bool := Prog.call .healthy Prog.ret

end Client

/-! ## The BBS client

The same for the BBS. Indices are passed as 64-bit integers by the two calls that take them
apart from a key. -/

namespace Bbs

@[simp] def actualLRPGroups (cellID : String) : RepM (Except Err (List Models.ActualLRPGroup)) :=
  Prog.call (.actualLRPGroups cellID) Prog.ret

@[simp] def tasksByCellID (cellID : String) : RepM (Except Err (List Models.Task)) :=
  Prog.call (.tasksByCellID cellID) Prog.ret

@[simp] def claimActualLRP (processGuid : String) (index : Int64)
    (instanceKey : ActualLRPInstanceKey) : RepM (Option Err) :=
  Prog.call (.claimActualLRP processGuid index instanceKey) Prog.ret

@[simp] def startActualLRP (key : ActualLRPKey) (instanceKey : ActualLRPInstanceKey)
    (netInfo : ActualLRPNetInfo) : RepM (Option Err) :=
  Prog.call (.startActualLRP key instanceKey netInfo) Prog.ret

@[simp] def crashActualLRP (key : ActualLRPKey) (instanceKey : ActualLRPInstanceKey)
    (reason : String) : RepM (Option Err) :=
  Prog.call (.crashActualLRP key instanceKey reason) Prog.ret

@[simp] def removeActualLRP (processGuid : String) (index : Int64)
    (instanceKey : ActualLRPInstanceKey) : RepM (Option Err) :=
  Prog.call (.removeActualLRP processGuid index instanceKey) Prog.ret

@[simp] def removeEvacuatingActualLRP (key : ActualLRPKey) (instanceKey : ActualLRPInstanceKey) :
    RepM (Option Err) :=
  Prog.call (.removeEvacuatingActualLRP key instanceKey) Prog.ret

@[simp] def evacuateClaimedActualLRP (key : ActualLRPKey) (instanceKey : ActualLRPInstanceKey) :
    RepM (Bool × Option Err) :=
  Prog.call (.evacuateClaimedActualLRP key instanceKey) Prog.ret

@[simp] def evacuateRunningActualLRP (key : ActualLRPKey) (instanceKey : ActualLRPInstanceKey)
    (netInfo : ActualLRPNetInfo) (ttl : UInt64) : RepM (Bool × Option Err) :=
  Prog.call (.evacuateRunningActualLRP key instanceKey netInfo ttl) Prog.ret

@[simp] def evacuateStoppedActualLRP (key : ActualLRPKey) (instanceKey : ActualLRPInstanceKey) :
    RepM (Bool × Option Err) :=
  Prog.call (.evacuateStoppedActualLRP key instanceKey) Prog.ret

@[simp] def evacuateCrashedActualLRP (key : ActualLRPKey) (instanceKey : ActualLRPInstanceKey)
    (reason : String) : RepM (Bool × Option Err) :=
  Prog.call (.evacuateCrashedActualLRP key instanceKey reason) Prog.ret

@[simp] def desiredLRPByProcessGuid (processGuid : String) : RepM (Except Err Models.DesiredLRP) :=
  Prog.call (.desiredLRPByProcessGuid processGuid) Prog.ret

@[simp] def startTask (taskGuid cellID : String) : RepM (Bool × Option Err) :=
  Prog.call (.startTask taskGuid cellID) Prog.ret

@[simp] def taskByGuid (taskGuid : String) : RepM (Except Err Models.Task) :=
  Prog.call (.taskByGuid taskGuid) Prog.ret

@[simp] def completeTask (taskGuid cellID : String) (failed : Bool) (failureReason : String)
    (result : List UInt8) : RepM (Option Err) :=
  Prog.call (.completeTask taskGuid cellID failed failureReason result) Prog.ret

@[simp] def failTask (taskGuid reason : String) : RepM (Option Err) :=
  Prog.call (.failTask taskGuid reason) Prog.ret

end Bbs

/-! ## The cell itself

Three calls stay within the process: the evacuation context, the source of fresh guids, and
the operation queue. They are calls all the same, because what they return depends on what
others do at the time. -/

/-- `evacuationReporter.Evacuating`: whether an evacuation has been asked for by now. Each use
is a new look, and two looks of one function may differ. -/
@[simp] def evacuating : RepM Bool := Prog.call .evacuating Prog.ret

/-- `generateInstanceGuid`: a fresh guid, or an error of the random source. -/
@[simp] def generateInstanceGuid : RepM (Except Err String) :=
  Prog.call .generateInstanceGuid Prog.ret

/-- `queue.Push`: hand an operation over; the queue runs operations of different keys in
parallel. -/
@[simp] def push (operation : Operation) : RepM Unit := Prog.call (.push operation) Prog.ret

/-- The configuration of a cell, with the functions it is linked against: the fields
of `AuctionCellRep`, of the generator and of the processors. -/
structure Cell where
  ext : External
  cellID : String
  stackPathMap : GoMap String String
  rootFSProviders : RootFSProviders
  zone : String
  placementTags : List String
  optionalPlacementTags : List String
  evacuationTTLInSeconds : UInt64

/-- A cell with one preloaded image. Concrete runs are evaluated on it. -/
def Cell.sample : Cell where
  ext := External.sample
  cellID := "cell"
  stackPathMap := AList.singleton "linux" "/data/rootfs/linux"
  rootFSProviders := ∅
  zone := "zone"
  placementTags := []
  optionalPlacementTags := []
  evacuationTTLInSeconds := 0

end CellRep
