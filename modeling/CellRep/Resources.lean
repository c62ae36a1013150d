import CellRep.Models

/-!
# The cell's state as the auctioneer sees it

The data of `resources.go` and `rootfs_providers.go`: what a cell offers
(`CellState`), what it is asked to place (`Work`), the questions the auctioneer asks
its copy of the state (`resourceMatch`, `matchRootFS`, `matchVolumeDrivers`,
`matchPlacementTags`), and the bookkeeping it does there when it hands work out
(`addLRP`, `addTask`). Memory and disk are 32-bit, container counts 64-bit; both wrap.
-/

namespace CellRep

/-! ## Resources

The source computes with fixed-width integers and no checks, so the model does too: whether a
subtraction stays in range is a question for the theorems and not settled by the types. -/

/-- What a cell has: `rep.Resources`. Memory and disk are in megabytes; `containers` counts
the containers that could still be allocated. -/
structure Resources where
  memoryMB : Int32
  diskMB : Int32
  containers : Int64
  deriving DecidableEq

/-- What one piece of work needs: `rep.Resource`. The number of processes is passed on to the
executor and takes no part in matching. -/
structure Resource where
  memoryMB : Int32
  diskMB : Int32
  maxPids : Int32
  deriving DecidableEq

/-- `Resources.Subtract`: take one piece of work off. Every piece takes one container,
whatever else it needs, and nothing keeps the result from becoming negative. -/
def Resources.subtract (r : Resources) (res : Resource) : Resources where
  memoryMB := r.memoryMB - res.memoryMB
  diskMB := r.diskMB - res.diskMB
  containers := r.containers - 1

/-- `Resource.Valid`: no negative needs. The number of processes is not looked at. -/
def Resource.valid (r : Resource) : Bool := 0 ≤ r.diskMB ∧ 0 ≤ r.memoryMB

theorem Resource.valid_iff {r : Resource} : r.valid ↔ 0 ≤ r.diskMB ∧ 0 ≤ r.memoryMB :=
  decide_eq_true_iff

/-! ## Work

What the auctioneer hands to a cell, and gets back if it could not be placed. -/

/-- Where a piece of work may be placed: `rep.PlacementConstraint`. Each of the three fields
is matched by a function of its own. -/
structure PlacementConstraint where
  placementTags : List String
  volumeDrivers : List String
  rootFs : String
  deriving DecidableEq

/-- An LRP instance to be placed: `rep.LRP`. -/
structure LRP where
  key : Models.ActualLRPKey
  placement : PlacementConstraint
  resource : Resource
  deriving DecidableEq

/-- `LRP.Identifier`: the process guid and the index, with a dot between them. -/
def LRP.identifier (lrp : LRP) : String :=
  lrp.key.processGuid ++ "." ++ toString lrp.key.index.toInt

/-- A task to be placed: `rep.Task`. -/
structure Task where
  taskGuid : String
  domain : String
  placement : PlacementConstraint
  resource : Resource
  deriving DecidableEq

/-- What the auctioneer hands to a cell in one request, and what it gets back of it:
`rep.Work`. -/
structure Work where
  lrps : List LRP
  tasks : List Task
  deriving DecidableEq

/-! ## Root filesystem providers

Which images a cell can run is told by scheme. The provider of a scheme takes any image, as
for docker, or knows the names of those it has, as for preloaded ones. -/

/-- `StringSet`; a nil set is `none`. Reading a nil map is allowed in the source, so a nil set
is not an error but an empty set. -/
abbrev StringSet : Type := Option (GoMap String Unit)

/-- `NewStringSet`: the set of the entries, in which repetitions do not show. -/
def newStringSet (entries : List String) : StringSet :=
  some (GoMap.putAll id (fun _ => ()) ∅ entries)

/-- `StringSet.Contains`; a nil set contains nothing. -/
def StringSet.contains (set : StringSet) (candidate : String) : Bool :=
  (set.bind (AList.lookup candidate)).isSome

/-- `RootFSProvider`: any image at all, or a fixed set of them. -/
inductive RootFSProvider : Type where
  | arbitrary : RootFSProvider
  | fixedSet : StringSet → RootFSProvider
  deriving DecidableEq

/-- Providers by scheme. An interface value may be nil, which a decoder can bring about; hence
the `Option`. -/
abbrev RootFSProviders : Type := GoMap String (Option RootFSProvider)

/-- `NewFixedSetRootFSProvider`: the provider of the given images and no others. -/
def newFixedSetRootFSProvider (rootfses : List String) : RootFSProvider :=
  .fixedSet (newStringSet rootfses)

/-- `Match` of either kind of provider: a fixed set looks at the opaque part. -/
def RootFSProvider.matches_ : RootFSProvider → URL → Bool
  | .arbitrary, _ => true
  | .fixedSet set, rootFS => set.contains rootFS.opaque_

/-- `RootFSProviders.Match`. Calling the method of a nil provider panics: `none`. A scheme
without a provider is an ordinary no. -/
def RootFSProviders.matches_ (providers : RootFSProviders) (rootFS : URL) : Option Bool :=
  match providers.lookup rootFS.scheme with
  | none => some false
  | some none => none
  | some (some provider) => some (provider.matches_ rootFS)

/-- An answer is that of the provider of the scheme; without one it is no. -/
theorem RootFSProviders.matches_eq_some {providers : RootFSProviders} {rootFS : URL}
    {answer : Bool} : providers.matches_ rootFS = some answer ↔
      (providers.lookup rootFS.scheme = none ∧ answer = false) ∨
        ∃ provider, providers.lookup rootFS.scheme = some (some provider) ∧
          answer = provider.matches_ rootFS := by
  rw [RootFSProviders.matches_]
  cases providers.lookup rootFS.scheme with
  | none => simp [eq_comm]
  | some provider =>
    cases provider with
    | none => simp
    | some provider => simp [eq_comm]

/-! ## The cell's state

The state with its questions and its updates, in the order of `resources.go`. What the updates
do to the answers is the subject of the modules on admission and on scoring. -/

/-- `rep.CellState`: what a cell tells the auctioneer of itself. The auctioneer works on its
copy through a whole round of placements, so the copy has to be changed as the cell would
change. -/
structure CellState where
  rootFSProviders : RootFSProviders
  availableResources : Resources
  totalResources : Resources
  lrps : List LRP
  tasks : List Task
  startingContainerCount : Int64
  zone : String
  evacuating : Bool
  volumeDrivers : List String
  placementTags : List String
  optionalPlacementTags : List String
  deriving DecidableEq

/-! ### Placement tags

A cell has tags that work must ask for (required) and tags it may ask for (optional). Tags are
compared as sets, each of which is a map that is walked over; the walks are arguments, as
their order is not fixed. -/

/-- `placementTagSet`, a map to empty structures. -/
abbrev PlacementTagSet : Type := GoMap String Unit

/-- `toSet`: the tags of a list, without repetitions. -/
def toSet (slice : List String) : PlacementTagSet :=
  GoMap.putAll id (fun _ => ()) ∅ slice

/-- `placementTagSet.union`, with the orders in which the two sets are walked over. -/
def PlacementTagSet.union {set other : PlacementTagSet} (walk : GoMap.Visit set)
    (otherWalk : GoMap.Visit other) : PlacementTagSet :=
  let tags := GoMap.putAll Sigma.fst (fun _ => ()) ∅ walk.entries
  GoMap.putAll Sigma.fst (fun _ => ()) tags otherWalk.entries

/-- The loop of `isSubset`, up to the first tag that is missing. Which one that is depends on
the order, that there is one does not. -/
def PlacementTagSet.isSubsetLoop (other : PlacementTagSet) : List ((_ : String) × Unit) → Bool
  | [] => true
  | entry :: entries =>
    if (other.lookup entry.1).isNone then false else isSubsetLoop other entries

/-- `placementTagSet.isSubset`, with the order in which the set is walked over. -/
def PlacementTagSet.isSubset {set : PlacementTagSet} (walk : GoMap.Visit set)
    (other : PlacementTagSet) : Bool :=
  isSubsetLoop other walk.entries

/-- The orders of the four walks over tag sets that one match takes. They are independent of
each other, and each may depend on the set it walks over. -/
structure TagWalks where
  required : ∀ set : PlacementTagSet, GoMap.Visit set
  optional : ∀ set : PlacementTagSet, GoMap.Visit set
  requiredInDesired : ∀ set : PlacementTagSet, GoMap.Visit set
  desiredInAll : ∀ set : PlacementTagSet, GoMap.Visit set

/-- `rep.InsufficientResourcesError`, by the names of what there is too little of. The names
are the keys of a map, so each is there once at most. -/
structure InsufficientResourcesError where
  problems : GoMap String Unit
  deriving DecidableEq

/-- `InsufficientResourcesError.Error`, with the order in which the problems are walked over.
The keys are sorted before they are joined; the text for no problems at all is never returned
by `resourceMatch`. -/
def InsufficientResourcesError.error (i : InsufficientResourcesError)
    (walk : GoMap.Visit i.problems) : String :=
  if i.problems.keys.length = 0 then "insufficient resources"
  else
    let keys := (walk.entries.map Sigma.fst).mergeSort
    "insufficient resources: " ++ ", ".intercalate keys

namespace CellState

/-- `CellState.AddLRP`: the auctioneer has placed an LRP on this cell. It counts as starting
from then on, and no check is made that it fits. -/
def addLRP (c : CellState) (lrp : LRP) : CellState :=
  { c with
    availableResources := c.availableResources.subtract lrp.resource
    startingContainerCount := c.startingContainerCount + 1
    lrps := c.lrps ++ [lrp] }

/-- `CellState.AddTask`: the same for a task, which goes to the other list. -/
def addTask (c : CellState) (task : Task) : CellState :=
  { c with
    availableResources := c.availableResources.subtract task.resource
    startingContainerCount := c.startingContainerCount + 1
    tasks := c.tasks ++ [task] }

/-- `CellState.ResourceMatch`: the problems found, `none` when there are none. Each of the
three comparisons is made whatever the others found, so that the error names all shortages at
once. -/
def resourceMatch (c : CellState) (res : Resource) : Option InsufficientResourcesError :=
  let problems : GoMap String Unit := ∅
  let problems :=
    if c.availableResources.diskMB < res.diskMB then problems.insert "disk" () else problems
  let problems :=
    if c.availableResources.memoryMB < res.memoryMB then problems.insert "memory" () else problems
  let problems :=
    if c.availableResources.containers < 1 then problems.insert "containers" () else problems
  if problems.keys.length = 0 then none else some ⟨problems⟩

/-- `CellState.MatchRootFS`; a panic of the provider is `none`. An image that is no URL is
refused without an error. -/
def matchRootFS (x : External) (c : CellState) (rootfs : String) : Option Bool :=
  match x.parseURL rootfs with
  | .error _ => some false
  | .ok rootFSURL => c.rootFSProviders.matches_ rootFSURL

/-- The inner loop of `MatchVolumeDrivers`, which ends at the first driver that is the one
requested. -/
def hasVolumeDriver (requestedDriver : String) : List String → Bool
  | [] => false
  | actualDriver :: actualDrivers =>
    if requestedDriver = actualDriver then true else hasVolumeDriver requestedDriver actualDrivers

/-- The outer loop of `MatchVolumeDrivers`, which ends at the first request that is not met. -/
def matchVolumeDriversLoop (c : CellState) : List String → Bool
  | [] => true
  | requestedDriver :: requestedDrivers =>
    let found := hasVolumeDriver requestedDriver c.volumeDrivers
    if !found then false else matchVolumeDriversLoop c requestedDrivers

/-- `CellState.MatchVolumeDrivers`: the cell has every driver the work asks for. -/
def matchVolumeDrivers (c : CellState) (volumeDrivers : List String) : Bool :=
  matchVolumeDriversLoop c volumeDrivers

/-- `CellState.MatchPlacementTags`: the work asks for all required tags of the cell, and for
none that the cell does not have. -/
def matchPlacementTags (walks : TagWalks) (c : CellState) (desiredPlacementTags : List String) :
    Bool :=
  let desiredTags := toSet desiredPlacementTags
  let optionalTags := toSet c.optionalPlacementTags
  let requiredTags := toSet c.placementTags
  let allTags := PlacementTagSet.union (walks.required requiredTags) (walks.optional optionalTags)
  PlacementTagSet.isSubset (walks.requiredInDesired requiredTags) desiredTags &&
    PlacementTagSet.isSubset (walks.desiredInAll desiredTags) allTags

end CellState

/-! ## Placing work

LRPs and tasks are accounted for alike, so one type of placements serves both. Here the
updates of a whole round are put into closed form, from which the results about admission,
scores and prediction start. -/

/-- Work of either kind, in the order in which it is placed. -/
abbrev Placement : Type := LRP ⊕ Task

/-- What a piece of work needs. -/
def Placement.resource : Placement → Resource
  | .inl lrp => lrp.resource
  | .inr task => task.resource

/-- Add a piece of work to the auctioneer's copy, by the function for its kind. -/
def CellState.add (c : CellState) : Placement → CellState
  | .inl lrp => c.addLRP lrp
  | .inr task => c.addTask task

/-- **The auctioneer's updates in closed form.** After any number of placements the resources
are reduced one piece after the other, the count has grown by their number (modulo 64 bits),
and each list has got the work of its kind in order; nothing else has changed. -/
theorem addAll_eq (placements : List Placement) :
    ∀ c : CellState, placements.foldl CellState.add c =
      { c with
        availableResources :=
          (placements.map Placement.resource).foldl Resources.subtract c.availableResources
        startingContainerCount := c.startingContainerCount + Int64.ofNat placements.length
        lrps := c.lrps ++ placements.filterMap Sum.getLeft?
        tasks := c.tasks ++ placements.filterMap Sum.getRight? } := by
  induction placements with
  | nil =>
    intro c
    simp
  | cons placement placements ih =>
    intro c
    rw [List.foldl_cons, ih, List.length_cons, Nat.add_comm, Int64.ofNat_add]
    rcases placement with lrp | task
    · simp [CellState.add, CellState.addLRP, Placement.resource, Int64.add_assoc,
        List.filterMap_cons]
    · simp [CellState.add, CellState.addTask, Placement.resource, Int64.add_assoc,
        List.filterMap_cons]

end CellRep
