import CellRep.Codec
import CellRep.Providers

/-!
# Work and cell states on the wire

The auctioneer sends `Work` and receives `Work` and `CellState` as JSON (`client.go`,
`handlers/perform_handler.go`, `handlers/state_handler.go`). The structures of `resources.go`
have no tags, so their fields go by their own names; `LRP` and `Task` embed other
structures, whose fields become theirs. The key of an LRP is a structure of the BBS with
tags in lower case.
-/

namespace CellRep

open Json (Value Codec StructField UnmarshalTypeError)

/-! ## Work

A structure is given by the list of its fields, and a codec is made of this list. What has to
be shown for it is that no two names are equal and that copying all fields is copying the
whole. Lists of strings, LRPs and tasks come back as they were, which is what `back` says of
them. -/

/-- The fields of `models.ActualLRPKey`, under the tags the BBS gives them. -/
def actualLRPKeyFields : List (StructField Models.ActualLRPKey) :=
  [Codec.string.field "process_guid" (·.processGuid) fun a s => { s with processGuid := a },
    Codec.int32.field "index" (·.index) fun a s => { s with index := a },
    Codec.string.field "domain" (·.domain) fun a s => { s with domain := a }]

/-- A list of strings. Nil and empty lists are written differently and read alike. -/
def stringsCodec : Codec (List String) := Codec.string.slice "" "[]string"

/-- The fields of `PlacementConstraint`, which is embedded in LRPs and in tasks. -/
def placementConstraintFields : List (StructField PlacementConstraint) :=
  [stringsCodec.field "PlacementTags" (·.placementTags) fun a s => { s with placementTags := a },
    stringsCodec.field "VolumeDrivers" (·.volumeDrivers) fun a s => { s with volumeDrivers := a },
    Codec.string.field "RootFs" (·.rootFs) fun a s => { s with rootFs := a }]

/-- The fields of `Resource`, which is embedded in LRPs and in tasks. -/
def resourceFields : List (StructField Resource) :=
  [Codec.int32.field "MemoryMB" (·.memoryMB) fun a s => { s with memoryMB := a },
    Codec.int32.field "DiskMB" (·.diskMB) fun a s => { s with diskMB := a },
    Codec.int32.field "MaxPids" (·.maxPids) fun a s => { s with maxPids := a }]

/-- The fields of `LRP`, all of them embedded; `encoding/json` puts them on the level of the
LRP. -/
def lrpFields : List (StructField LRP) :=
  actualLRPKeyFields.map (StructField.embed LRP.key fun key s => { s with key := key }) ++
    placementConstraintFields.map
      (StructField.embed LRP.placement fun pc s => { s with placement := pc }) ++
    resourceFields.map (StructField.embed LRP.resource fun res s => { s with resource := res })

/-- The fields of `Task`: two of its own and those of what it embeds. -/
def taskFields : List (StructField Task) :=
  [Codec.string.field "TaskGuid" Task.taskGuid fun a s => { s with taskGuid := a },
    Codec.string.field "Domain" Task.domain fun a s => { s with domain := a }] ++
    placementConstraintFields.map
      (StructField.embed Task.placement fun pc s => { s with placement := pc }) ++
    resourceFields.map (StructField.embed Task.resource fun res s => { s with resource := res })

@[simp] theorem back_stringsCodec (texts : List String) : stringsCodec.back texts = texts :=
  List.map_id texts

/-- Every field of an LRP is on the list, so copying all of them leaves nothing of the old
value. -/
theorem copy_lrpFields (s old : LRP) : lrpFields.foldl (fun acc f => f.copy s acc) old = s := by
  simp only [lrpFields, actualLRPKeyFields, placementConstraintFields, resourceFields,
    List.map_cons, List.map_nil, List.cons_append, List.nil_append, List.foldl_cons,
    List.foldl_nil, Codec.field, StructField.embed, back_stringsCodec]
  rfl

theorem copy_taskFields (s old : Task) : taskFields.foldl (fun acc f => f.copy s acc) old = s := by
  simp only [taskFields, placementConstraintFields, resourceFields, List.map_cons,
    List.map_nil, List.cons_append, List.nil_append, List.foldl_cons, List.foldl_nil, Codec.field,
    StructField.embed, back_stringsCodec]
  rfl

/-- `LRP` as it is written and read. What is written comes back unchanged. -/
def LRP.codec : Codec LRP := Codec.record "rep.LRP" lrpFields id (by decide) copy_lrpFields

/-- `Task` as it is written and read. What is written comes back unchanged. -/
def Task.codec : Codec Task := Codec.record "rep.Task" taskFields id (by decide) copy_taskFields

/-- The zero value of `LRP`: what a new element of a list is decoded into. -/
def LRP.zero : LRP := ⟨⟨"", 0, ""⟩, ⟨[], [], ""⟩, ⟨0, 0, 0⟩⟩

/-- The zero value of `Task`: what a new element of a list is decoded into. -/
def Task.zero : Task := ⟨"", "", ⟨[], [], ""⟩, ⟨0, 0, 0⟩⟩

/-- A list of LRPs, each decoded into a zero value. -/
def lrpsCodec : Codec (List LRP) := LRP.codec.slice .zero "[]rep.LRP"

/-- A list of tasks, each decoded into a zero value. -/
def tasksCodec : Codec (List Task) := Task.codec.slice .zero "[]rep.Task"

@[simp] theorem back_lrpsCodec (lrps : List LRP) : lrpsCodec.back lrps = lrps := List.map_id lrps

@[simp] theorem back_tasksCodec (tasks : List Task) : tasksCodec.back tasks = tasks :=
  List.map_id tasks

/-- The fields of `Work`. Either list may be nil, and is then written as `null`. -/
def workFields : List (StructField Work) :=
  [lrpsCodec.field "LRPs" Work.lrps fun a s => { s with lrps := a },
    tasksCodec.field "Tasks" Work.tasks fun a s => { s with tasks := a }]

theorem copy_workFields (s old : Work) : workFields.foldl (fun acc f => f.copy s acc) old = s := by
  simp only [workFields, List.foldl_cons, List.foldl_nil, Codec.field, back_lrpsCodec,
    back_tasksCodec]

/-- `Work`, which is both what the auctioneer sends and what the cell answers with. -/
def Work.codec : Codec Work := Codec.record "rep.Work" workFields id (by decide) copy_workFields

/-- The zero value of `Work`, which the handler and the client decode into. -/
def Work.zero : Work := ⟨[], []⟩

/-! ## Cell states

Most of a state is written as work is. The providers have a decoder of their own, which is
where a state may come back stored differently from how it was. -/

section

variable (walk : EnvelopeWalk)

/-- What a provider, or nil, is written as comes back as the same. -/
theorem unmarshal_provider (provider : Option RootFSProvider) :
    ∃ provider', unmarshalRootFSProvider ((provider.map RootFSProvider.marshalJSON).getD .null) =
      .ok provider' ∧ Option.Rel RootFSProvider.Same provider' provider := by
  cases provider with
  | none => exact ⟨none, rfl, .none⟩
  | some provider =>
    obtain ⟨provider', hread, hsame⟩ := unmarshal_marshalJSON provider
    exact ⟨some provider', hread, .some hsame⟩

/-- Providers are read key by key: each key that was written is found again with the same
provider, and no other key is. -/
theorem unmarshal_providers (providers : RootFSProviders) :
    ∃ decoded, unmarshalProviders walk (marshalProviders (some providers)) = .ok decoded ∧
      ∀ key, Option.Rel (Option.Rel RootFSProvider.Same) (decoded.lookup key)
        (providers.lookup key) := by
  obtain ⟨envelope, henvelope, hlookup⟩ : ∃ envelope,
      Json.decodeMap (marshalProviders (some providers)) = .ok envelope ∧
      ∀ key, envelope.lookup key = (providers.lookup key).map fun provider =>
        (provider.map RootFSProvider.marshalJSON).getD .null :=
    Json.lookup_decodeMap
  -- no entry fails, so the decoder goes through the whole envelope
  obtain ⟨decoded, hdecoded⟩ := GoMap.exists_collect (g := unmarshalRootFSProvider)
    (walk envelope) fun key value hvalue => by
      rw [hlookup, Option.map_eq_some_iff] at hvalue
      obtain ⟨provider, -, rfl⟩ := hvalue
      obtain ⟨provider', hread, -⟩ := unmarshal_provider provider
      exact ⟨provider', hread⟩
  refine ⟨decoded, unmarshalProviders_eq_ok.mpr ⟨envelope, henvelope, hdecoded⟩, ?_⟩
  intro key
  obtain ⟨hfound, hnone⟩ := GoMap.lookup_collect hdecoded key
  cases hprovider : providers.lookup key with
  | none =>
    rw [hnone (by rw [hlookup, hprovider]; rfl)]
    exact .none
  | some provider =>
    obtain ⟨provider', hread, hsame⟩ := unmarshal_provider provider
    obtain ⟨provider'', hread', hkey⟩ := hfound _ (by rw [hlookup, hprovider]; rfl)
    cases hread.symm.trans hread'
    rw [hkey]
    exact .some hsame

/-- `RootFSProviders`, with their own decoder. It replaces the map, so nothing of an old value
is left. -/
def providersCodec : Codec RootFSProviders where
  read _ value := unmarshalProviders walk value
  write providers := marshalProviders (some providers)
  Writes providers value := value = marshalProviders (some providers) ∨
    providers = ∅ ∧ value = marshalProviders none
  back providers := (unmarshalProviders walk (marshalProviders (some providers))).toOption.getD ∅
  writes_write _ := .inl rfl
  read_of_writes := by
    intro providers value h old
    obtain ⟨decoded, hdecoded, -⟩ := unmarshal_providers walk providers
    rcases h with rfl | ⟨rfl, rfl⟩
    · rw [hdecoded]
      rfl
    · -- a nil map is read as an empty one is
      have hnil : unmarshalProviders walk (marshalProviders none) =
          unmarshalProviders walk (marshalProviders (some ∅)) := rfl
      rw [hnil, hdecoded]
      rfl

/-- The fields of `Resources`. The count of containers is a plain `int`. -/
def resourcesFields : List (StructField Resources) :=
  [Codec.int32.field "MemoryMB" Resources.memoryMB fun a s => { s with memoryMB := a },
    Codec.int32.field "DiskMB" Resources.diskMB fun a s => { s with diskMB := a },
    Codec.int.field "Containers" Resources.containers fun a s => { s with containers := a }]

/-- `Resources` as they are written and read. -/
def Resources.codec : Codec Resources :=
  Codec.record "rep.Resources" resourcesFields id (by decide) fun _ _ => rfl

/-- The fields of `CellState`, by their Go names. -/
def cellStateFields : List (StructField CellState) :=
  [(providersCodec walk).field "RootFSProviders" (·.rootFSProviders)
      fun a s => { s with rootFSProviders := a },
    Resources.codec.field "AvailableResources" (·.availableResources)
      fun a s => { s with availableResources := a },
    Resources.codec.field "TotalResources" (·.totalResources)
      fun a s => { s with totalResources := a },
    lrpsCodec.field "LRPs" (·.lrps) fun a s => { s with lrps := a },
    tasksCodec.field "Tasks" (·.tasks) fun a s => { s with tasks := a },
    Codec.int.field "StartingContainerCount" (·.startingContainerCount)
      fun a s => { s with startingContainerCount := a },
    Codec.string.field "Zone" (·.zone) fun a s => { s with zone := a },
    Codec.bool.field "Evacuating" (·.evacuating) fun a s => { s with evacuating := a },
    stringsCodec.field "VolumeDrivers" (·.volumeDrivers) fun a s => { s with volumeDrivers := a },
    stringsCodec.field "PlacementTags" (·.placementTags) fun a s => { s with placementTags := a },
    stringsCodec.field "OptionalPlacementTags" (·.optionalPlacementTags)
      fun a s => { s with optionalPlacementTags := a }]

/-- What comes back of a state: all of it, its providers by way of their own decoder. -/
def CellState.back (s : CellState) : CellState :=
  { s with rootFSProviders := (providersCodec walk).back s.rootFSProviders }

/-- Copying all fields of a state gives what comes back of it. -/
theorem copy_cellStateFields (s old : CellState) :
    (cellStateFields walk).foldl (fun acc f => f.copy s acc) old = s.back walk := by
  simp only [cellStateFields, List.foldl_cons, List.foldl_nil, Codec.field, back_lrpsCodec,
    back_tasksCodec, back_stringsCodec]
  rfl

theorem names_cellStateFields : ((cellStateFields walk).map StructField.name).Nodup := by
  simp [cellStateFields, Codec.field]

/-- `CellState` as it is written by the cell and read by the auctioneer. -/
def CellState.codec : Codec CellState :=
  Codec.record "rep.CellState" (cellStateFields walk) (CellState.back walk)
    (names_cellStateFields walk) (copy_cellStateFields walk)

/-- The zero value of `CellState`, which the client decodes into. -/
def CellState.zero : CellState :=
  ⟨∅, ⟨0, 0, 0⟩, ⟨0, 0, 0⟩, [], [], 0, "", false, [], [], []⟩

end

end CellRep
