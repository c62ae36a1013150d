import CellRep.Resources
import CellRep.Strconv

/-!
# Tags, keys and run requests

`conversion_helpers.go`. A container carries the identity of the instance it runs in
its tags; the keys the BBS knows it by are read back from there. The other direction
builds what the executor is asked to run from what the BBS wants run.
-/

namespace CellRep

open Models (ActualLRPKey ActualLRPInstanceKey ActualLRPNetInfo)
open Executor (Tags Container RunRequest RunInfo)

/-! ## Tags

The keys under which a container's identity is stored. They are fixed texts of the source, and
they are part of an interface: a container that was allocated by an older version of the rep
is read with the same keys. -/

/-- The tag that says what kind of work a container runs. Without it, or with another value
than the two below, a container is nobody's. -/
def lifecycleTag : String := "lifecycle"

/-- The tag that names a task's result file. It is set by the run request, not by the
allocation. -/
def resultFileTag : String := "result-file"

/-- The tag that carries the domain, which is a part of an LRP's key. -/
def domainTag : String := "domain"

/-- The lifecycle of a task, as the tag of its container says it. -/
def taskLifecycle : String := "task"

/-- The lifecycle of an LRP, as the tag of its container says it. -/
def lrpLifecycle : String := "lrp"

/-- The tag that carries the process guid. -/
def processGuidTag : String := "process-guid"

/-- The tag that carries the instance guid. `LRPContainerGuid` makes it the container's guid
as well, so it is stored twice. -/
def instanceGuidTag : String := "instance-guid"

/-- The tag that carries the instance's index, as decimal text: tags are strings, and this is
where an index is widened and narrowed. -/
def processIndexTag : String := "process-index"

/-- `ErrContainerMissingTags`, for a nil map of tags; an empty one gets further. -/
def errContainerMissingTags : Err := .text "container is missing tags"

/-- `ErrInvalidProcessIndex`: the index tag is no decimal numeral of 64 bits. -/
def errInvalidProcessIndex : Err := .text "container does not have a valid process index"

/-! ## Keys

Reading a key back is three steps: parse the index at 64 bits, narrow it to 32, and have the
result validated. The validation sees the narrowed index only. -/

/-- `LRPContainerGuid`: an instance's container goes by its instance guid. The process guid is
an argument that the source ignores too. -/
def lrpContainerGuid (_processGuid instanceGuid : String) : String := instanceGuid

/-- `ActualLRPKeyFromTags`: parsed at 64 bits, narrowed to 32, then validated. A missing tag
reads as the empty string, which is no numeral and fails the validation of the guids. -/
def actualLRPKeyFromTags (x : External) (tags : Tags) : Except Err ActualLRPKey :=
  match tags with
  | none => .error errContainerMissingTags
  | some _ =>
    match Strconv.atoi (tags.get processIndexTag) with
    | none => .error errInvalidProcessIndex
    | some processIndex =>
      let actualLRPKey : ActualLRPKey :=
        ⟨tags.get processGuidTag, processIndex.toInt32, tags.get domainTag⟩
      match x.validateKey actualLRPKey with
      | some err => .error err
      | none => .ok actualLRPKey

/-- **A key is returned exactly when the index parses and the key it is narrowed into
validates.** It is the only fact about the function that callers use, so the order of its
checks is seen here and nowhere else. -/
theorem actualLRPKeyFromTags_eq_ok {x : External} {tags : Tags} {key : ActualLRPKey} :
    actualLRPKeyFromTags x tags = .ok key ↔
      ∃ processIndex : Int64, Strconv.atoi (tags.get processIndexTag) = some processIndex ∧
        key = ⟨tags.get processGuidTag, processIndex.toInt32, tags.get domainTag⟩ ∧
        x.validateKey key = none := by
  cases tags with
  | none =>
    -- a nil map has no index: the empty text is no numeral
    refine ⟨nofun, ?_⟩
    rintro ⟨processIndex, hparse, -⟩
    cases hparse
  | some tags =>
    cases hparse : Strconv.atoi (Tags.get (some tags) processIndexTag) with
    | none => simp [actualLRPKeyFromTags, hparse]
    | some processIndex =>
      cases hvalid : x.validateKey ⟨Tags.get (some tags) processGuidTag, processIndex.toInt32,
          Tags.get (some tags) domainTag⟩ with
      | none =>
        simp only [actualLRPKeyFromTags, hparse, hvalid]
        refine ⟨?_, ?_⟩
        · intro h
          obtain rfl := Except.ok.inj h
          exact ⟨processIndex, rfl, rfl, hvalid⟩
        · rintro ⟨_, ⟨⟩, rfl, -⟩
          rfl
      | some err =>
        simp only [actualLRPKeyFromTags, hparse, hvalid]
        refine ⟨nofun, ?_⟩
        rintro ⟨_, ⟨⟩, rfl, hnone⟩
        rw [hvalid] at hnone
        cases hnone

/-- `ActualLRPInstanceKeyFromContainer`: the instance guid from the tags, the cell from the
caller. The guid of the container itself is not looked at. -/
def actualLRPInstanceKeyFromContainer (x : External) (container : Container) (cellID : String) :
    Except Err ActualLRPInstanceKey :=
  match container.tags with
  | none => .error errContainerMissingTags
  | some _ =>
    let actualLRPInstanceKey : ActualLRPInstanceKey :=
      ⟨container.tags.get instanceGuidTag, cellID⟩
    match x.validateInstanceKey actualLRPInstanceKey with
    | some err => .error err
    | none => .ok actualLRPInstanceKey

/-- An instance key that validates is the instance guid of the tags with the cell. -/
theorem eq_of_actualLRPInstanceKeyFromContainer {x : External} {container : Container}
    {cellID : String} {instanceKey : ActualLRPInstanceKey}
    (h : actualLRPInstanceKeyFromContainer x container cellID = .ok instanceKey) :
    instanceKey = ⟨container.tags.get instanceGuidTag, cellID⟩ := by
  unfold actualLRPInstanceKeyFromContainer at h
  split at h
  · cases h
  · dsimp only at h
    split at h
    · cases h
    · exact (Except.ok.inj h).symm

/-- `ActualLRPNetInfoFromContainer`: the ports are widened to 32 bits again, which loses
nothing. -/
def actualLRPNetInfoFromContainer (x : External) (container : Container) :
    Except Err ActualLRPNetInfo :=
  let ports := container.ports.map fun portMapping =>
    (⟨portMapping.containerPort.toUInt32, portMapping.hostPort.toUInt32⟩ : Models.PortMapping)
  let actualLRPNetInfo : ActualLRPNetInfo := ⟨container.externalIP, container.internalIP, ports⟩
  match x.validateNetInfo actualLRPNetInfo with
  | some err => .error err
  | none => .ok actualLRPNetInfo

/-- What is reported is what the container has, validated. -/
theorem eq_of_actualLRPNetInfoFromContainer {x : External} {container : Container}
    {netInfo : ActualLRPNetInfo} (h : actualLRPNetInfoFromContainer x container = .ok netInfo) :
    netInfo = ⟨container.externalIP, container.internalIP, container.ports.map fun portMapping =>
      ⟨portMapping.containerPort.toUInt32, portMapping.hostPort.toUInt32⟩⟩ := by
  unfold actualLRPNetInfoFromContainer at h
  dsimp only at h
  split at h
  · cases h
  · exact (Except.ok.inj h).symm

/-! ## Run requests

What the executor is asked to run is put together from what the BBS wants run. Most fields are
copied; the disk scope and the volume mounts are computed, and these two can fail. -/

/-- `diskScopeForRootFS`. A preloaded image does not count towards the disk limit, any other
one does; the URL has to parse for the scheme to be known. -/
def diskScopeForRootFS (x : External) (rootFS : String) :
    Except Err Executor.DiskLimitScope :=
  match x.parseURL rootFS with
  | .error err => .error err
  | .ok url =>
    if url.scheme = Models.preloadedRootFSScheme then .ok .exclusiveDiskLimit
    else .ok .totalDiskLimit

/-- `convertVolumeMount`: the configuration is decoded only when there is one, and
before the mode is looked at. -/
def convertVolumeMount (x : External) (volumeMnt : Models.VolumeMount) :
    Except Err Executor.VolumeMount :=
  let config : Except Err (Option String) :=
    if volumeMnt.mountConfig = "" then .ok none
    else match x.unmarshalConfig volumeMnt.mountConfig with
      | .error err => .error err
      | .ok config => .ok (some config)
  match config with
  | .error err => .error err
  | .ok config =>
    let mode : Option Executor.BindMountMode :=
      if volumeMnt.mode = "r" then some .ro
      else if volumeMnt.mode = "rw" then some .rw
      else none
    match mode with
    | none => .error (.text "unrecognized volume mount mode")
    | some mode =>
      .ok ⟨volumeMnt.driver, volumeMnt.volumeId, volumeMnt.containerDir, mode, config⟩

/-- `convertVolumeMounts`: in order, up to the first failure. -/
def convertVolumeMounts (x : External) :
    List Models.VolumeMount → Except Err (List Executor.VolumeMount)
  | [] => .ok []
  | volumeMnt :: rest =>
    match convertVolumeMount x volumeMnt with
    | .error err => .error err
    | .ok execMnt =>
      match convertVolumeMounts x rest with
      | .error err => .error err
      | .ok execMnts => .ok (execMnt :: execMnts)

/-- `ConvertCachedDependency`, which copies every field under its own name. -/
def convertCachedDependency (modelDep : Models.CachedDependency) : Executor.CachedDependency where
  name := modelDep.name
  from_ := modelDep.from_
  to_ := modelDep.to_
  cacheKey := modelDep.cacheKey
  logSource := modelDep.logSource
  checksumValue := modelDep.checksumValue
  checksumAlgorithm := modelDep.checksumAlgorithm

/-- `ConvertPortMappings`: 32-bit ports are narrowed to 16, without a check, and no host port
is asked for. -/
def convertPortMappings (containerPorts : List UInt32) : List Executor.PortMapping :=
  containerPorts.map fun port => ⟨port.toUInt16, 0⟩

/-- `convertCertificateProperties`: nil properties are empty ones. -/
def convertCertificateProperties (props : Option (List String)) : List String := props.getD []

/-- `NewRunRequestFromDesiredLRP`. The instance guid and the index are put in front of the
environment variables of the process, each under an old and a new name; the request has an
empty map of tags, so the container keeps the tags of its allocation. -/
def newRunRequestFromDesiredLRP (x : External) (containerGuid : String)
    (desiredLRP : Models.DesiredLRP) (lrpKey : ActualLRPKey)
    (lrpInstanceKey : ActualLRPInstanceKey) : Except Err RunRequest :=
  match diskScopeForRootFS x desiredLRP.rootFs with
  | .error err => .error err
  | .ok diskScope =>
    match convertVolumeMounts x desiredLRP.volumeMounts with
    | .error err => .error err
    | .ok mounts =>
      let index := lrpKey.index.toInt64
      let runInfo : RunInfo :=
        { cpuWeight := desiredLRP.cpuWeight.toUInt64
          diskScope := diskScope
          ports := convertPortMappings desiredLRP.ports
          logConfig := ⟨desiredLRP.logGuid, index, desiredLRP.logSource⟩
          metricsConfig := ⟨desiredLRP.metricsGuid, index⟩
          startTimeoutMs := desiredLRP.startTimeoutMs.toUInt64
          privileged := desiredLRP.privileged
          cachedDependencies := desiredLRP.cachedDependencies.map convertCachedDependency
          setup := desiredLRP.setup
          action := desiredLRP.action
          monitor := desiredLRP.monitor
          checkDefinition := desiredLRP.checkDefinition
          egressRules := desiredLRP.egressRules
          env :=
            [ ⟨"INSTANCE_GUID", lrpInstanceKey.instanceGuid⟩,
              ⟨"INSTANCE_INDEX", Strconv.itoa index⟩,
              ⟨"CF_INSTANCE_GUID", lrpInstanceKey.instanceGuid⟩,
              ⟨"CF_INSTANCE_INDEX", Strconv.itoa index⟩ ] ++
              x.environmentVariablesFromModel desiredLRP.environmentVariables
          trustedSystemCertificatesPath := desiredLRP.trustedSystemCertificatesPath
          volumeMounts := mounts
          network := desiredLRP.network
          certificateProperties := convertCertificateProperties desiredLRP.certificateProperties
          imageUsername := desiredLRP.imageUsername
          imagePassword := desiredLRP.imagePassword }
      .ok ⟨containerGuid, runInfo, some ∅⟩

/-- `NewRunRequestFromTask`. A task has no index, no ports and no health check; its request
adds the tag with the result file, which the rep reads when the container has completed. -/
def newRunRequestFromTask (x : External) (task : Models.Task) : Except Err RunRequest :=
  match diskScopeForRootFS x task.rootFs with
  | .error err => .error err
  | .ok diskScope =>
    match convertVolumeMounts x task.volumeMounts with
    | .error err => .error err
    | .ok mounts =>
      let runInfo : RunInfo :=
        { cpuWeight := task.cpuWeight.toUInt64
          diskScope := diskScope
          ports := []
          logConfig := ⟨task.logGuid, 0, task.logSource⟩
          metricsConfig := ⟨task.metricsGuid, 0⟩
          startTimeoutMs := 0
          privileged := task.privileged
          cachedDependencies := task.cachedDependencies.map convertCachedDependency
          setup := none
          action := task.action
          monitor := none
          checkDefinition := none
          egressRules := task.egressRules
          env := x.environmentVariablesFromModel task.environmentVariables
          trustedSystemCertificatesPath := task.trustedSystemCertificatesPath
          volumeMounts := mounts
          network := task.network
          certificateProperties := convertCertificateProperties task.certificateProperties
          imageUsername := task.imageUsername
          imagePassword := task.imagePassword }
      .ok ⟨task.taskGuid, runInfo, some (AList.singleton resultFileTag task.resultFile)⟩

/-- A request made for an LRP's container is for that container, and asks for the ports
of the LRP. -/
theorem guid_ports_of_newRunRequestFromDesiredLRP {x : External} {guid : String}
    {desired : Models.DesiredLRP} {key : ActualLRPKey}
    {instanceKey : ActualLRPInstanceKey} {req : RunRequest}
    (hr : newRunRequestFromDesiredLRP x guid desired key instanceKey = .ok req) :
    req.guid = guid ∧ req.runInfo.ports = convertPortMappings desired.ports := by
  unfold newRunRequestFromDesiredLRP at hr
  split at hr
  · cases hr
  · split at hr
    · cases hr
    · cases hr
      exact ⟨rfl, rfl⟩

/-- A request made for a task goes by the task's guid. -/
theorem guid_of_newRunRequestFromTask {x : External} {task : Models.Task}
    {req : RunRequest} (hr : newRunRequestFromTask x task = .ok req) :
    req.guid = task.taskGuid := by
  unfold newRunRequestFromTask at hr
  split at hr
  · cases hr
  · split at hr
    · cases hr
    · cases hr
      rfl

/-! ## When a request can be made

The conversions fail over the rootfs and the volume mounts only. What is asked of these is
spelled out here, so that a statement about a request that can be made does not have to
mention the code that makes it. -/

section

variable {x : External}

/-- The disk is counted for whatever parses: the scope depends on the scheme of the rootfs,
but a scheme that is not known has one too. -/
theorem diskScopeForRootFS_ok {rootFS : String} :
    (∃ scope, diskScopeForRootFS x rootFS = .ok scope) ↔ ∃ url, x.parseURL rootFS = .ok url := by
  unfold diskScopeForRootFS
  cases x.parseURL rootFS with
  | error err => simp
  | ok url =>
    by_cases hpre : url.scheme = Models.preloadedRootFSScheme
    · simp [hpre]
    · simp [hpre]

/-- A volume mount that can be converted: its configuration, if it has one, is a JSON object,
and its mode is one of the two that are known. -/
@[mk_iff] structure Mountable (x : External) (volumeMnt : Models.VolumeMount) : Prop where
  config : volumeMnt.mountConfig = "" ∨
    ∃ config, x.unmarshalConfig volumeMnt.mountConfig = .ok config
  mode : volumeMnt.mode = "r" ∨ volumeMnt.mode = "rw"

/-- **A volume mount is converted exactly if it is mountable.** The configuration is decoded
first, but an unknown mode is an error whether or not there is one. -/
theorem convertVolumeMount_ok {volumeMnt : Models.VolumeMount} :
    (∃ execMnt, convertVolumeMount x volumeMnt = .ok execMnt) ↔ Mountable x volumeMnt := by
  rw [mountable_iff, convertVolumeMount]
  by_cases hr : volumeMnt.mode = "r" <;> by_cases hrw : volumeMnt.mode = "rw" <;>
    by_cases hempty : volumeMnt.mountConfig = ""
  -- without a configuration the mode decides, with one both do
  all_goals
    cases x.unmarshalConfig volumeMnt.mountConfig <;> simp [hempty, hr, hrw]

/-- The mounts are converted up to the first failure, so all of them are exactly if each of
them can be. -/
theorem convertVolumeMounts_ok {volumeMounts : List Models.VolumeMount} :
    (∃ execMnts, convertVolumeMounts x volumeMounts = .ok execMnts) ↔
      ∀ volumeMnt ∈ volumeMounts, Mountable x volumeMnt := by
  induction volumeMounts with
  | nil => simp [convertVolumeMounts]
  | cons volumeMnt volumeMounts ih =>
    rw [List.forall_mem_cons, ← ih, ← convertVolumeMount_ok, convertVolumeMounts]
    cases convertVolumeMount x volumeMnt with
    | error err => simp
    | ok execMnt =>
      cases convertVolumeMounts x volumeMounts with
      | error err => simp
      | ok execMnts => simp

/-- The request for a task is made exactly if its disk scope is found and its volume mounts
are converted; nothing else that goes into it can fail. -/
theorem newRunRequestFromTask_ok {task : Models.Task} :
    (∃ req, newRunRequestFromTask x task = .ok req) ↔
      (∃ scope, diskScopeForRootFS x task.rootFs = .ok scope) ∧
        ∃ mounts, convertVolumeMounts x task.volumeMounts = .ok mounts := by
  unfold newRunRequestFromTask
  cases diskScopeForRootFS x task.rootFs with
  | error err => simp
  | ok scope =>
    cases convertVolumeMounts x task.volumeMounts with
    | error err => simp
    | ok mounts => simp

end

end CellRep
