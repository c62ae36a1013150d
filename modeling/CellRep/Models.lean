import CellRep.GoMap

/-!
# The data of the cell's neighbours

The rep sits between two services: the BBS, which holds the desired state (records of
long running processes, tasks), and the executor, which holds the containers. This
module has their data as far as the rep reads or writes it, and `External`, the
functions of theirs the rep calls as plain functions. Those live outside this
repository, so they are parameters: everything proved later holds for any of them,
and what a result needs to know of one is a hypothesis of that result.

Messages the rep only passes through (actions, health checks, network rules) are
carried as opaque text.
-/

namespace CellRep

/-! ## Errors

The rep compares errors with one sentinel of the executor and looks at the type the BBS client
gives an error; of all others it reads the text at most. A nil error is `none`, and functions
that return either a value or an error return an `Except`. -/

/-- The error types of the BBS, as far as the rep tells them apart: four of them decide a
branch somewhere, all others are treated alike. -/
inductive ErrorType : Type where
  /-- `Error_ActualLRPCannotBeClaimed` -/
  | actualLRPCannotBeClaimed : ErrorType
  /-- `Error_ActualLRPCannotBeStarted` -/
  | actualLRPCannotBeStarted : ErrorType
  /-- `Error_InvalidStateTransition` -/
  | invalidStateTransition : ErrorType
  /-- `Error_ResourceNotFound` -/
  | resourceNotFound : ErrorType
  /-- any other type, by its number -/
  | other : ℕ → ErrorType
  deriving DecidableEq

/-- Error values. A nil error is the absence of one. Transport failures, timeouts and errors
made by the rep itself are all in the last constructor. -/
inductive Err : Type where
  /-- `executor.ErrContainerNotFound`, which the rep compares with -/
  | containerNotFound : Err
  /-- an error of the BBS, with its type -/
  | models : ErrorType → String → Err
  /-- any other error value, by its text -/
  | text : String → Err
  deriving DecidableEq

/-! ## Records of the BBS

An instance of a process has a key (which instance it is) and an instance key (which attempt
at running it, on which cell). While a cell evacuates, a key may have two records at once, the
one of the new instance and an evacuating one of the old. -/

namespace Models

/-- Which instance of which process: `models.ActualLRPKey`. The index is 32-bit here, while
the tags of a container carry it as decimal text. -/
structure ActualLRPKey where
  processGuid : String
  index : Int32
  domain : String
  deriving DecidableEq

/-- Which attempt at running it, and where: `models.ActualLRPInstanceKey`. The instance guid
is also the guid of the container. -/
structure ActualLRPInstanceKey where
  instanceGuid : String
  cellId : String
  deriving DecidableEq

/-- A port inside the container and the one it has outside: `models.PortMapping`. Both are
32-bit in the BBS and 16-bit in the executor. -/
structure PortMapping where
  containerPort : UInt32
  hostPort : UInt32
  deriving DecidableEq

/-- Where an instance can be reached: `models.ActualLRPNetInfo`. The addresses and the ports
are those of its container. -/
structure ActualLRPNetInfo where
  address : String
  instanceAddress : String
  ports : List PortMapping
  deriving DecidableEq

/-- A record of a running instance: `models.ActualLRP`. Its state, its crash count and its
times are left out, since the rep decides by the two keys only. -/
structure ActualLRP where
  key : ActualLRPKey
  instanceKey : ActualLRPInstanceKey
  deriving DecidableEq

/-- The instance record and the evacuating record of one key, each possibly absent:
`models.ActualLRPGroup`. The BBS returns them in groups, and the rep takes the groups apart
again. -/
structure ActualLRPGroup where
  instance_ : Option ActualLRP
  evacuating : Option ActualLRP
  deriving DecidableEq

/-- `models.EnvironmentVariable`. -/
structure EnvironmentVariable where
  name : String
  value : String
  deriving DecidableEq

/-- A download that is kept between containers: `models.CachedDependency`. The rep copies it
field by field. -/
structure CachedDependency where
  name : String
  from_ : String
  to_ : String
  cacheKey : String
  logSource : String
  checksumValue : String
  checksumAlgorithm : String
  deriving DecidableEq

/-- A volume to be mounted: `models.VolumeMount`, with its shared device. The mode and the
configuration are text here, and either may turn out to be malformed. -/
structure VolumeMount where
  driver : String
  containerDir : String
  mode : String
  volumeId : String
  mountConfig : String
  deriving DecidableEq

/-- What is wanted of a process: `models.DesiredLRP`. The rep fetches it when it is about to
run a container, and builds the run request from it. -/
structure DesiredLRP where
  processGuid : String
  rootFs : String
  volumeMounts : List VolumeMount
  cpuWeight : UInt32
  ports : List UInt32
  logGuid : String
  logSource : String
  metricsGuid : String
  startTimeoutMs : Int64
  privileged : Bool
  cachedDependencies : List CachedDependency
  setup : Option String
  action : Option String
  monitor : Option String
  checkDefinition : Option String
  egressRules : List String
  environmentVariables : List EnvironmentVariable
  trustedSystemCertificatesPath : String
  network : Option (List (String × String))
  certificateProperties : Option (List String)
  imageUsername : String
  imagePassword : String
  deriving DecidableEq

/-- A one-off task: `models.Task` with its definition. The rep fetches it by its guid after
the BBS has let it start the task. -/
structure Task where
  taskGuid : String
  rootFs : String
  volumeMounts : List VolumeMount
  resultFile : String
  cpuWeight : UInt32
  privileged : Bool
  logGuid : String
  logSource : String
  metricsGuid : String
  cachedDependencies : List CachedDependency
  action : Option String
  environmentVariables : List EnvironmentVariable
  egressRules : List String
  trustedSystemCertificatesPath : String
  network : Option (List (String × String))
  certificateProperties : Option (List String)
  imageUsername : String
  imagePassword : String
  deriving DecidableEq

/-- The scheme of an image that lies on the cell: `models.PreloadedRootFSScheme`. -/
def preloadedRootFSScheme : String := "preloaded"

/-- The scheme of such an image with layers on top: `models.PreloadedOCIRootFSScheme`. -/
def preloadedOCIRootFSScheme : String := "preloaded+oci"

end Models

/-! ## Containers of the executor

A container is allocated (reserved), then run: it is initialised, created and runs, and in the end
it is completed, with a result. The executor moves it on by itself; the rep only asks for
the next step or for its end, and learns of the state by reading it. -/

namespace Executor

/-- `executor.State`: the five states the rep knows, and any other text. The state is a string
in the source, so a value outside the five is possible and has branches of its own. -/
inductive State : Type where
  | reserved : State
  | initializing : State
  | created : State
  | running : State
  | completed : State
  /-- no known state -/
  | invalid : String → State
  deriving DecidableEq

/-- The tags of a container: `executor.Tags`; a nil map is `none`, which the source tells
apart from an empty one. -/
abbrev Tags : Type := Option (GoMap String String)

/-- Reading a key of a possibly nil map gives the empty string when it is absent. -/
def Tags.get (tags : Tags) (k : String) : String := (tags.bind (AList.lookup k)).getD ""

/-- What a container is given: `executor.Resource`, with the path of the root filesystem it is
to be made from. -/
structure Resource where
  memoryMB : Int64
  diskMB : Int64
  maxPids : Int64
  rootFSPath : String
  deriving DecidableEq

/-- A port inside the container and its host port, at 16 bits: `executor.PortMapping`. The
host port is filled in by the executor. -/
structure PortMapping where
  containerPort : UInt16
  hostPort : UInt16
  deriving DecidableEq

/-- How a container ended: `executor.ContainerRunResult`. Without `failed` the end is a
success; `stopped` says that somebody asked for it. -/
structure ContainerRunResult where
  failed : Bool
  failureReason : String
  stopped : Bool
  deriving DecidableEq

/-- A container as the executor reports it: `executor.Container`. What it is for is only in
its tags. -/
structure Container where
  guid : String
  resource : Resource
  tags : Tags
  state : State
  ports : List PortMapping
  externalIP : String
  internalIP : String
  runResult : ContainerRunResult
  deriving DecidableEq

/-- A request to reserve room for a container: `executor.AllocationRequest`. The guid is
chosen by the rep. -/
structure AllocationRequest where
  guid : String
  resource : Resource
  tags : Tags
  deriving DecidableEq

/-- The container the executor keeps for a request it has accepted: reserved, without ports
and addresses, and with the tags of the request. -/
def AllocationRequest.container (req : AllocationRequest) : Container :=
  ⟨req.guid, req.resource, req.tags, .reserved, [], "", "", ⟨false, "", false⟩⟩

/-- `executor.AllocationFailure`: the request that failed and why. -/
structure AllocationFailure where
  request : AllocationRequest
  errorMsg : String
  deriving DecidableEq

/-- What the executor has, or has left: `executor.ExecutorResources`, all of it as 64-bit
counts. -/
structure ExecutorResources where
  memoryMB : Int64
  diskMB : Int64
  containers : Int64
  deriving DecidableEq

/-- Whether the image counts towards the disk limit: `executor.DiskLimitScope`. -/
inductive DiskLimitScope : Type where
  | totalDiskLimit : DiskLimitScope
  | exclusiveDiskLimit : DiskLimitScope
  deriving DecidableEq

/-- How a volume is mounted: `executor.BindMountMode`. There are only these two, so a mode
that is neither cannot reach the executor. -/
inductive BindMountMode : Type where
  | ro : BindMountMode
  | rw : BindMountMode
  deriving DecidableEq

/-- `executor.VolumeMount`; the decoded driver configuration is opaque. -/
structure VolumeMount where
  driver : String
  volumeId : String
  containerPath : String
  mode : BindMountMode
  config : Option String
  deriving DecidableEq

/-- `executor.LogConfig`. -/
structure LogConfig where
  guid : String
  index : Int64
  sourceName : String
  deriving DecidableEq

/-- `executor.MetricsConfig`. -/
structure MetricsConfig where
  guid : String
  index : Int64
  deriving DecidableEq

/-- `executor.EnvironmentVariable`. -/
structure EnvironmentVariable where
  name : String
  value : String
  deriving DecidableEq

/-- `executor.CachedDependency`. -/
structure CachedDependency where
  name : String
  from_ : String
  to_ : String
  cacheKey : String
  logSource : String
  checksumValue : String
  checksumAlgorithm : String
  deriving DecidableEq

/-- How a reserved container is to be run: `executor.RunInfo`. Actions, checks and rules are
opaque. -/
structure RunInfo where
  cpuWeight : UInt64
  diskScope : DiskLimitScope
  ports : List PortMapping
  logConfig : LogConfig
  metricsConfig : MetricsConfig
  startTimeoutMs : UInt64
  privileged : Bool
  cachedDependencies : List CachedDependency
  setup : Option String
  action : Option String
  monitor : Option String
  checkDefinition : Option String
  egressRules : List String
  env : List EnvironmentVariable
  trustedSystemCertificatesPath : String
  volumeMounts : List VolumeMount
  network : Option (List (String × String))
  certificateProperties : List String
  imageUsername : String
  imagePassword : String
  deriving DecidableEq

/-- A request to run a reserved container: `executor.RunRequest`. The result file of a task
goes with it as a tag. -/
structure RunRequest where
  guid : String
  runInfo : RunInfo
  tags : Tags
  deriving DecidableEq

end Executor

/-- The containers an executor holds, by guid. A function rather than a list, since worlds are
changed at one guid at a time. -/
abbrev Containers : Type := String → Option Executor.Container

/-! ## Functions of the neighbours

Nothing is assumed of these functions. Where a result needs a property of one, such as that
the validation of a key refuses a negative index, the property is a hypothesis that names it. -/

/-- A parsed URL, as far as the rep reads it. The opaque part is what follows a scheme without
slashes, as in `preloaded:linux`. -/
structure URL where
  scheme : String
  opaque_ : String
  rawQuery : String
  deriving DecidableEq

/-- The functions outside this repository that the rep calls. They are pure: none of them
depends on anything but its arguments. -/
structure External where
  /-- the text of an error -/
  errorText : Err → String
  /-- the type `models.ConvertError` gives a non-nil error -/
  convertError : Err → ErrorType
  /-- `ActualLRPKey.Validate` -/
  validateKey : Models.ActualLRPKey → Option Err
  /-- `ActualLRPInstanceKey.Validate` -/
  validateInstanceKey : Models.ActualLRPInstanceKey → Option Err
  /-- `ActualLRPNetInfo.Validate` -/
  validateNetInfo : Models.ActualLRPNetInfo → Option Err
  /-- `url.Parse` -/
  parseURL : String → Except Err URL
  /-- decoding the JSON object of a volume driver's configuration -/
  unmarshalConfig : String → Except Err String
  /-- `executor.EnvironmentVariablesFromModel` -/
  environmentVariablesFromModel :
    List Models.EnvironmentVariable → List Executor.EnvironmentVariable

/-- Small stand-ins that answer as the real functions do on plain inputs: keys must be
filled in, an address must be given, and the only URL known is that of one preloaded
image. Concrete runs are evaluated with them. -/
def External.sample : External where
  errorText
    | .containerNotFound => "container not found"
    | .models _ message => message
    | .text message => message
  convertError
    | .models type _ => type
    | _ => .other 0
  validateKey key :=
    if key.processGuid = "" then some (.text "Invalid field: process_guid")
    else if key.domain = "" then some (.text "Invalid field: domain")
    else if key.index < 0 then some (.text "Invalid field: index")
    else none
  validateInstanceKey key :=
    if key.instanceGuid = "" then some (.text "Invalid field: instance_guid")
    else if key.cellId = "" then some (.text "Invalid field: cell_id")
    else none
  validateNetInfo netInfo :=
    if netInfo.address = "" then some (.text "Invalid field: address") else none
  parseURL rootFS :=
    if rootFS = "preloaded:linux" then .ok ⟨"preloaded", "linux", ""⟩
    else .error (.text "parse error")
  unmarshalConfig text := .ok text
  environmentVariablesFromModel vars := vars.map fun v => ⟨v.name, v.value⟩

end CellRep
