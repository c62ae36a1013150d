import CellRep.AuctionCell
import CellRep.Batch
import CellRep.Identity
import CellRep.Pool
import Mathlib.Data.Set.Insert
import Mathlib.Data.Set.Lattice
import Mathlib.Order.CompletePartialOrder

/-!
# The residual path never removes a live LRP

A residual operation is made from two snapshots taken at different moments, waits in
the queue, checks that the container is not there, and only then asks the BBS to
remove the record; anything may happen between any two of these. Nothing in the
operation itself makes that safe. What does is the history of guids: a record exists
only for an instance whose container was allocated before, a guid is allocated once,
and so a container that is absent after its allocation stays absent.

Each program carries what it knows (`Knowledge`): the guids it has generated and not
yet used, the guids it knows to have been allocated, and those it has found gone.
`lrpContract` says that this knowledge survives every step of every other program.
-/

namespace CellRep

open Models (ActualLRP ActualLRPGroup)
open Executor (Container AllocationRequest Tags)

/-! ## The cell and its neighbours

The world has the executor, the BBS and the queue in it, each as far as the argument needs it.
Two of its fields, the guids generated and the guids ever allocated, exist nowhere in the
code: they record the past, and the invariant is about them. -/

/-- The executor, the BBS's records with this cell's id, and the queue. -/
structure LRPWorld where
  /-- the containers the executor holds -/
  containers : Containers
  /-- the guids `generateInstanceGuid` has returned -/
  generated : Set String
  /-- the guids under which a container was ever allocated -/
  allocated : Set String
  /-- the instance records -/
  instances : Set ActualLRP
  /-- the evacuating records -/
  evacuating : Set ActualLRP
  /-- the operations that were queued -/
  queued : Set Operation

/-- No containers and no records: a cell that has just come up and has taken over nothing. -/
def LRPWorld.initial : LRPWorld := ⟨fun _ => none, ∅, ∅, ∅, ∅, ∅⟩

/-- The executor accepts some requests. Under a guid that is requested there is a new
container afterwards, whatever was there before; that nothing was there is a result, not an
assumption. -/
def LRPWorld.allocate (w : LRPWorld) (requests : List AllocationRequest) : LRPWorld :=
  { w with
    containers := fun guid =>
      ((requests.find? fun req => req.guid = guid).map AllocationRequest.container).or
        (w.containers guid)
    allocated := w.allocated ∪ {guid | ∃ req ∈ requests, req.guid = guid} }

/-- The call is one of those that create records, and this is a record it creates. A claim
names its record by process guid and index, the others by the whole key. -/
def Writes (record : ActualLRP) : Call → Prop
  | .claimActualLRP processGuid index instanceKey =>
    record.key.processGuid = processGuid ∧ record.key.index.toInt64 = index ∧
      record.instanceKey = instanceKey
  | .startActualLRP key instanceKey _ | .evacuateClaimedActualLRP key instanceKey
  | .evacuateRunningActualLRP key instanceKey _ _ | .evacuateStoppedActualLRP key instanceKey
  | .evacuateCrashedActualLRP key instanceKey _ => record = ⟨key, instanceKey⟩
  | _ => False

/-- What a call may do to the records: any may go, and none appears but those the call
writes. -/
structure Recorded (c : Call) (w w' : LRPWorld) : Prop where
  containers : w'.containers = w.containers
  generated : w'.generated = w.generated
  allocated : w'.allocated = w.allocated
  queued : w'.queued = w.queued
  instances : ∀ record ∈ w'.instances, record ∈ w.instances ∨ Writes record c
  evacuating : ∀ record ∈ w'.evacuating, record ∈ w.evacuating ∨ Writes record c

/-- How the world answers. A guid is generated once; `GetContainer` fails only for an
absent container; a read lists nothing that is not there. Which requests are accepted,
whether a deletion succeeds and which records the BBS keeps is left open. -/
def lrpAnswer (w : LRPWorld) (c : Call) (r : Reply c) (w' : LRPWorld) : Prop :=
  match c, r with
  | .generateInstanceGuid, .ok guid =>
    guid ∉ w.generated ∧ w' = { w with generated := insert guid w.generated }
  | .allocateContainers requests, _ =>
    ∃ accepted, List.Sublist accepted requests ∧ w' = w.allocate accepted
  | .getContainer guid, .ok container => w' = w ∧ w.containers guid = some container
  | .getContainer guid, .error _ => w' = w ∧ w.containers guid = none
  | .listContainers, .ok cs =>
    w' = w ∧ ∀ container ∈ cs, w.containers container.guid = some container
  | .actualLRPGroups _, .ok groups =>
    w' = w ∧ (∀ record ∈ instanceRecords groups, record ∈ w.instances) ∧
      ∀ record ∈ evacuatingRecords groups, record ∈ w.evacuating
  | .deleteContainer guid, _ =>
    w' = w ∨ w' = { w with containers := Function.update w.containers guid none }
  | .push op, _ => w' = { w with queued := insert op w.queued }
  | c, _ => Recorded c w w'

/-- What happens without the rep: containers change state or vanish, records vanish. No
container appears, and none changes its guid or its tags. -/
structure Drifts (w w' : LRPWorld) : Prop where
  generated : w'.generated = w.generated
  allocated : w'.allocated = w.allocated
  queued : w'.queued = w.queued
  containers : ∀ guid container', w'.containers guid = some container' →
    ∃ container, w.containers guid = some container ∧ container'.guid = container.guid ∧
      container'.tags = container.tags
  instances : w'.instances ⊆ w.instances
  evacuating : w'.evacuating ⊆ w.evacuating

/-- What the rep runs: the three entry points that LRPs pass through. -/
inductive Job : Type where
  /-- a request to place LRPs -/
  | perform : List LRP → Job
  /-- a bulk sync -/
  | sync : Schedule → Job
  /-- an operation -/
  | operation : Operation → Job

/-- Requests, syncs and container operations may be started at any time, a residual
operation at any time after a sync has queued it. -/
def lrpSystem (C : Cell) : System Call Reply LRPWorld Job where
  act := lrpAnswer
  env := Drifts
  spawn w job p :=
    match job with
    | .perform lrps => p = do let _ ← perform C ⟨lrps, []⟩; return
    | .sync s => p = sync C s
    | .operation op => p = op.execute C ∧ (op.isResidual = true → op ∈ w.queued)

/-! ## The invariant

The invariant of the world and the knowledge of a program are kept apart. The former holds
between any two steps, the latter is gathered by one program and has to survive the steps of
all others. -/

/-- Tags under which a container is processed as the LRP instance `guid`. The rep writes them,
and it reads the instance guid back from them rather than from the container's guid. -/
def Identified (guid : String) (tags : Tags) : Prop :=
  tags.get lifecycleTag = lrpLifecycle ∧ tags.get instanceGuidTag = guid

/-- The instance guid of a residual LRP operation, under which it looks for the container and
asks for the removal. -/
def Operation.instanceGuid : Operation → Option String
  | .residualInstance _ instanceKey | .residualEvacuating _ instanceKey
  | .residualJoint _ instanceKey => some instanceKey.instanceGuid
  | .container _ | .residualTask _ => none

/-- Containers, records and queued residual operations are all of allocated guids, and
allocated guids are generated ones. -/
structure LRPWorld.Sound (w : LRPWorld) : Prop where
  containers : ∀ guid container, w.containers guid = some container →
    container.guid = guid ∧ guid ∈ w.allocated ∧ Identified guid container.tags
  allocated : w.allocated ⊆ w.generated
  instances : ∀ record ∈ w.instances, recordGuid record ∈ w.allocated
  evacuating : ∀ record ∈ w.evacuating, recordGuid record ∈ w.allocated
  queued : ∀ op ∈ w.queued, ∀ guid, op.instanceGuid = some guid → guid ∈ w.allocated

/-- What a program knows. It can be computed from the calls a program has made and the replies
it got, so it is a ghost state and not part of the code. -/
structure Knowledge where
  /-- whether it is a residual operation -/
  residual : Bool
  /-- guids it has generated and not used yet -/
  owned : Set String
  /-- guids that were allocated -/
  known : Set String
  /-- allocated guids whose container it has found absent -/
  gone : Set String

/-- What a program's knowledge says of the world. Note that a guid which is gone has been
allocated: absence alone would not last. -/
structure Knowledge.Holds (g : Knowledge) (w : LRPWorld) : Prop where
  owned : ∀ guid ∈ g.owned, guid ∈ w.generated ∧ guid ∉ w.allocated
  known : g.known ⊆ w.allocated
  gone : ∀ guid ∈ g.gone, guid ∈ w.allocated ∧ w.containers guid = none

/-- The guids of all records of the groups, instance records and evacuating ones alike. -/
def recordGuids (groups : List ActualLRPGroup) : Set String :=
  {guid | ∃ record ∈ instanceRecords groups ++ evacuatingRecords groups, recordGuid record = guid}

/-- How a reply adds to what a program knows. A container that is not found is known to be
gone only if its guid was known to have been allocated before the look. -/
def Knowledge.learn (g : Knowledge) (c : Call) (r : Reply c) : Knowledge :=
  match c, r with
  | .generateInstanceGuid, .ok guid => { g with owned := insert guid g.owned }
  | .allocateContainers _, _ => { g with owned := ∅ }
  | .getContainer _, .ok container => { g with known := insert container.guid g.known }
  | .getContainer guid, .error _ =>
    { g with gone := g.gone ∪ {asked | asked = guid ∧ guid ∈ g.known} }
  | .actualLRPGroups _, .ok groups => { g with known := g.known ∪ recordGuids groups }
  | _, _ => g

/-- The calls a program may make with what it knows: it allocates LRP containers under
guids it owns, writes records and queues residual operations of allocated guids, and,
if it is a residual operation, removes only what it has found gone. -/
def Knowledge.Allows (g : Knowledge) : Call → Prop
  | .allocateContainers requests =>
    ∀ req ∈ requests, req.guid ∈ g.owned ∧ Identified req.guid req.tags
  | .claimActualLRP _ _ instanceKey | .startActualLRP _ instanceKey _
  | .evacuateClaimedActualLRP _ instanceKey | .evacuateRunningActualLRP _ instanceKey _ _
  | .evacuateStoppedActualLRP _ instanceKey | .evacuateCrashedActualLRP _ instanceKey _ =>
    instanceKey.instanceGuid ∈ g.known
  | .push op => ∀ guid, op.instanceGuid = some guid → guid ∈ g.known
  | .removeActualLRP _ _ instanceKey | .removeEvacuatingActualLRP _ instanceKey =>
    g.residual = true → instanceKey.instanceGuid ∈ g.gone
  | _ => True

/-- The specification of a program, over its knowledge. The one thing it relies on in the
replies is that a container it is given carries its own guid in its tags. -/
def lrpSpec : Spec Call Reply Knowledge where
  pre := Knowledge.Allows
  ans _ c r :=
    match c, r with
    | .getContainer _, .ok container => Identified container.guid container.tags
    | _, _ => True
  next := Knowledge.learn

/-! ## What the programs know

Each program of the rep meets the specification from its initial knowledge. A placement owns
the guids it generates; a sync knows the guids of the records it has read; a container
operation knows the guid of the container it was given; a residual operation starts with the
guid of the record it was made from. -/

/-- A request that may be sent: under a guid of one's own, and with the tags of an LRP. -/
def Ready (g : Knowledge) (req : AllocationRequest) : Prop :=
  req.guid ∈ g.owned ∧ Identified req.guid req.tags

/-- The requests of the rep have these tags. -/
theorem identified_lrpRequest (lrp : LRP) (instanceGuid rootFSPath : String) :
    Identified instanceGuid (lrpRequest lrp instanceGuid rootFSPath).tags := by
  obtain ⟨-, -, -, hlife, hinstance⟩ := lrpTags_get lrp instanceGuid
  exact ⟨hlife, hinstance⟩

/-- The loop sends nothing but requests for LRPs under guids it has just generated. -/
theorem wp_lrpsToAllocationRequestLoop {C : Cell} {lrps : List LRP} :
    ∀ {acc : Translation LRP} {g : Knowledge}, (∀ req ∈ acc.requests, Ready g req) →
      (lrpsToAllocationRequestLoop C acc lrps).wp lrpSpec
        (fun g tr => ∀ req ∈ tr.requests, Ready g req) g := by
  induction lrps with
  | nil => exact fun h => h
  | cons lrp lrps ih =>
    intro acc g hacc
    simp only [lrpsToAllocationRequestLoop, generateInstanceGuid, Prog.call_bind, Prog.ret_bind,
      Prog.wp_call]
    refine ⟨trivial, ?_⟩
    intro r _
    cases r with
    | error err => exact ih hacc
    | ok guid =>
      -- the requests made so far stay ready when one more guid is owned
      have hmono : ∀ req ∈ acc.requests, Ready { g with owned := insert guid g.owned } req := by
        intro req hreq
        obtain ⟨howned, hid⟩ := hacc req hreq
        exact ⟨Set.mem_insert_of_mem _ howned, hid⟩
      dsimp only
      split
      · exact ih hmono
      · apply ih
        intro req hreq
        rcases List.mem_append.mp hreq with hreq | hreq
        · exact hmono req hreq
        · obtain rfl := List.mem_singleton.mp hreq
          exact ⟨Set.mem_insert _ _, identified_lrpRequest ..⟩

/-- The allocation is where guids are spent. Whether the executor accepts is its own affair. -/
theorem wp_allocate {tr : Translation LRP} {input : List LRP} {g : Knowledge}
    (h : ∀ req ∈ tr.requests, Ready g req) :
    (allocate input tr).wp lrpSpec (fun _ _ => True) g := by
  simp only [allocate, Client.allocateContainers, Prog.call_bind, Prog.ret_bind, Prog.wp_call]
  refine ⟨h, ?_⟩
  intro r _
  cases r <;> trivial

/-- The LRP half of a placement. Without LRPs there is no call. -/
theorem wp_performLRPs {C : Cell} {lrps : List LRP} {g : Knowledge} :
    (performLRPs C lrps).wp lrpSpec (fun _ _ => True) g := by
  cases lrps with
  | nil => trivial
  | cons lrp lrps =>
    refine Prog.wp_bind.mpr (Prog.wp_mono (fun g tr htr => wp_allocate htr) ?_)
    exact wp_lrpsToAllocationRequestLoop fun req hreq => absurd hreq List.not_mem_nil

/-- A request to place LRPs; while the cell evacuates, nothing is placed. -/
theorem wp_perform {C : Cell} {lrps : List LRP} {g : Knowledge} :
    (do let _ ← perform C ⟨lrps, []⟩; return : RepM Unit).wp lrpSpec (fun _ _ => True) g := by
  apply Prog.wp_bind.mpr
  simp only [perform, evacuating, Prog.call_bind, Prog.ret_bind, Prog.wp_call]
  refine ⟨trivial, ?_⟩
  intro isEvacuating _
  split
  · trivial
  · exact Prog.wp_bind.mpr (Prog.wp_mono (fun _ _ _ => trivial) wp_performLRPs)

/-- What was read of the groups is known: the invariant that the reads of a sync establish. -/
def ReadKnown (g : Knowledge) (found : Found) : Prop :=
  ∀ groups, found.groups = .ok groups → recordGuids groups ⊆ g.known

/-- A residual LRP operation of a batch comes from a record that was read, and carries that
record's instance guid. -/
theorem instanceGuid_of_origin {cs : List Container} {groups : List ActualLRPGroup}
    {ts : List Models.Task} {guid instanceGuid : String} {op : Operation}
    (horigin : Origin cs groups ts guid op) (hinstance : op.instanceGuid = some instanceGuid) :
    instanceGuid ∈ recordGuids groups := by
  cases horigin with
  | container => cases hinstance
  | joint _ hmem =>
    cases hinstance
    exact ⟨_, List.mem_append_left _ hmem, rfl⟩
  | instance_ _ hmem =>
    cases hinstance
    exact ⟨_, List.mem_append_left _ hmem, rfl⟩
  | evacuating _ _ hmem =>
    cases hinstance
    exact ⟨_, List.mem_append_right _ hmem, rfl⟩
  | task => cases hinstance

/-- A bulk sync: what it queues it knows to have been allocated. The order of its three reads
does not matter, since the knowledge comes from the groups alone. -/
theorem wp_sync_lrp {C : Cell} {s : Schedule} {g : Knowledge} :
    (sync C s).wp lrpSpec (fun _ _ => True) g := by
  refine wp_sync (I := ReadKnown) ?_ (fun g found r h => ?_)
    fun g cs groups ts guid op hknown horigin => ⟨fun instanceGuid hinstance => ?_, fun _ => rfl⟩
  · rintro groups hgroups guid ⟨record, hmem, -⟩
    cases hgroups
    exact absurd hmem List.not_mem_nil
  · cases r with
    | containers => exact ⟨trivial, fun reply _ => h⟩
    | tasks => exact ⟨trivial, fun reply _ => h⟩
    | lrps =>
      refine ⟨trivial, ?_⟩
      intro reply _ groups hgroups
      obtain rfl : reply = .ok groups := hgroups
      exact Set.subset_union_right
  · exact hknown groups rfl (instanceGuid_of_origin horigin hinstance)

/-- The calls of the processors for a container that was found: whatever record they write is
of the container's own guid, by its tags. -/
theorem allows_of_lrpCall {C : Cell} {container : Container} {g : Knowledge} {c : Call}
    (hid : Identified container.guid container.tags) (hres : g.residual = false)
    (hknown : container.guid ∈ g.known) (hc : LRPCall C container c) : g.Allows c := by
  have hinstance : ∀ lrp, decodeLRPContainer C container = .ok lrp →
      lrp.instanceKey.instanceGuid ∈ g.known := by
    intro lrp hd
    rw [instanceKey_of_decode hd, hid.2]
    exact hknown
  cases c with
  | claimActualLRP =>
    obtain ⟨lrp, hd, -, -, rfl⟩ := hc
    exact hinstance lrp hd
  | startActualLRP | evacuateClaimedActualLRP | evacuateRunningActualLRP
  | evacuateStoppedActualLRP | evacuateCrashedActualLRP =>
    obtain ⟨lrp, hd, -, rfl⟩ := hc
    exact hinstance lrp hd
  | removeActualLRP | removeEvacuatingActualLRP =>
    intro htrue
    rw [hres] at htrue
    cases htrue
  | allocateContainers | push => exact hc.elim
  | _ => trivial

/-- None of these calls teaches anything, so the knowledge stays as it was. -/
theorem learn_of_lrpCall {C : Cell} {container : Container} {g : Knowledge} {c : Call}
    {r : Reply c} (hc : LRPCall C container c) : g.learn c r = g := by
  cases c with
  | generateInstanceGuid | allocateContainers | getContainer | actualLRPGroups => exact hc.elim
  | _ => rfl

/-- A container operation. It may also remove records, when a container has stopped; not being
a residual operation, it does so without having found anything gone. -/
theorem wp_executeContainer {C : Cell} {guid : String} {g : Knowledge}
    (hres : g.residual = false) :
    (executeContainer C guid).wp lrpSpec (fun _ _ => True) g := by
  refine Prog.wp_bind.mpr (Delegate.wp_getContainer.mpr ⟨trivial, fun r hr => ?_⟩)
  cases r with
  | error err => trivial
  | ok container =>
    have hid : Identified container.guid container.tags := hr
    dsimp only [Except.toOption]
    rw [if_pos hid.1]
    refine Prog.wp_mono (fun _ _ _ => trivial) (lrpProcess_only.wp
      (I := fun g => g.residual = false ∧ container.guid ∈ g.known) (fun g c hI hc => ?_) ?_)
    · refine ⟨allows_of_lrpCall hid hI.1 hI.2 hc, ?_⟩
      intro r _
      rw [show lrpSpec.next g c r = g from learn_of_lrpCall hc]
      exact hI
    · exact ⟨hres, Set.mem_insert _ _⟩

/-- What a program knows when it is started: a residual operation the guid of its record, the
others nothing. -/
def Job.knowledge : Job → Knowledge
  | .perform _ => ⟨false, ∅, ∅, ∅⟩
  | .sync _ => ⟨false, ∅, ∅, ∅⟩
  | .operation op => ⟨op.isResidual, ∅, {guid | op.instanceGuid = some guid}, ∅⟩

/-- A residual operation that finds its container absent knows that it is gone, and only then
does it ask for a removal. -/
theorem wp_execute {C : Cell} (op : Operation) :
    (op.execute C).wp lrpSpec (fun _ _ => True) (Job.operation op).knowledge := by
  have hgone : ∀ (g : Knowledge) (guid : String) (err : Err), guid ∈ g.known →
      guid ∈ (lrpSpec.next g (.getContainer guid) (.error err)).gone := fun g guid err hknown =>
    Set.mem_union_right _ ⟨rfl, hknown⟩
  cases op with
  | container guid => exact wp_executeContainer rfl
  | residualInstance key instanceKey =>
    refine Delegate.wp_ifAbsent trivial (fun _ _ => trivial) fun err _ => ?_
    exact ⟨fun _ => hgone _ _ err rfl, fun _ _ => trivial⟩
  | residualEvacuating key instanceKey =>
    refine Delegate.wp_ifAbsent trivial (fun _ _ => trivial) fun err _ => ?_
    exact ⟨fun _ => hgone _ _ err rfl, fun _ _ => trivial⟩
  | residualJoint key instanceKey =>
    refine Delegate.wp_ifAbsent trivial (fun _ _ => trivial) fun err _ => ?_
    exact ⟨fun _ => hgone _ _ err rfl, fun _ _ => ⟨fun _ => hgone _ _ err rfl,
      fun _ _ => trivial⟩⟩
  | residualTask taskGuid =>
    refine Delegate.wp_ifAbsent trivial (fun _ _ => trivial) fun err _ => ?_
    exact ⟨trivial, fun _ _ => trivial⟩

/-! ## The contract

Every answered call is reduced to one of five kinds of step first (`LRPStep`), and everything
that has to be preserved is then proved once for each kind rather than for each call. -/

/-- What a step does to the world as far as knowledge goes; `fresh` are the guids it
allocates. An absent container stays absent unless its guid is among them. -/
structure Evolves (w w' : LRPWorld) (fresh : Set String) : Prop where
  generated : w.generated ⊆ w'.generated
  allocated : w'.allocated = w.allocated ∪ fresh
  containers : ∀ guid, guid ∉ fresh → w.containers guid = none → w'.containers guid = none

section

variable {w w' : LRPWorld} {g : Knowledge} {c : Call} {r : Reply c} {fresh : Set String}

/-- **Knowledge lasts**: whatever a step allocates, neither is owned nor was allocated before.
This is the heart of the matter: what is gone has been allocated, so no step brings it back. -/
theorem Knowledge.Holds.evolve (h : g.Holds w) (he : Evolves w w' fresh)
    (hfresh : ∀ guid ∈ fresh, guid ∉ g.owned ∧ guid ∉ w.allocated) : g.Holds w' := by
  have hallocated : w.allocated ⊆ w'.allocated := by
    rw [he.allocated]
    exact Set.subset_union_left
  refine ⟨?_, h.known.trans hallocated, ?_⟩
  · intro guid hguid
    obtain ⟨hgen, hnot⟩ := h.owned guid hguid
    refine ⟨he.generated hgen, ?_⟩
    intro hmem
    rw [he.allocated] at hmem
    rcases hmem with hmem | hmem
    · exact hnot hmem
    · exact (hfresh guid hmem).1 hguid
  · intro guid hguid
    obtain ⟨halloc, hnone⟩ := h.gone guid hguid
    refine ⟨hallocated halloc, he.containers guid (fun hmem => ?_) hnone⟩
    exact (hfresh guid hmem).2 halloc

theorem Knowledge.Holds.evolve_empty (h : g.Holds w) (he : Evolves w w' ∅) : g.Holds w' :=
  h.evolve he fun guid hguid => absurd hguid (Set.notMem_empty guid)

/-- Accepting requests allocates their guids and touches no others. -/
theorem evolves_allocate (w : LRPWorld) (requests : List AllocationRequest) :
    Evolves w (w.allocate requests) {guid | ∃ req ∈ requests, req.guid = guid} := by
  refine ⟨subset_rfl, rfl, ?_⟩
  intro guid hguid hnone
  have hfind : (requests.find? fun req => req.guid = guid) = none := by
    refine List.find?_eq_none.mpr fun req hreq heq => hguid ⟨req, hreq, ?_⟩
    exact of_decide_eq_true heq
  rw [LRPWorld.allocate]
  simp only [hfind, Option.map_none, Option.none_or]
  exact hnone

/-- A step of the BBS leaves the executor alone. -/
theorem Recorded.evolves (h : Recorded c w w') : Evolves w w' ∅ := by
  refine ⟨?_, ?_, ?_⟩
  · rw [h.generated]
  · rw [h.allocated, Set.union_empty]
  · intro guid _ hnone
    rw [h.containers]
    exact hnone

/-- What vanishes without the rep is absent afterwards, and what was absent stays so. -/
theorem Drifts.evolves (h : Drifts w w') : Evolves w w' ∅ := by
  refine ⟨?_, ?_, ?_⟩
  · rw [h.generated]
  · rw [h.allocated, Set.union_empty]
  · intro guid _ hnone
    rcases hfound : w'.containers guid with _ | container'
    · rfl
    · obtain ⟨container, hold, -⟩ := h.containers guid container' hfound
      rw [hnone] at hold
      cases hold

/-- A deletion is nothing that could not happen without the rep. -/
theorem drifts_delete (w : LRPWorld) (guid : String) :
    Drifts w { w with containers := Function.update w.containers guid none } := by
  refine ⟨rfl, rfl, rfl, ?_, subset_rfl, subset_rfl⟩
  intro asked container hfound
  by_cases heq : asked = guid
  · subst heq
    cases (Function.update_self ..).symm.trans hfound
  · exact ⟨container, (Function.update_of_ne heq ..).symm.trans hfound, rfl, rfl⟩

theorem Recorded.refl (c : Call) (w : LRPWorld) : Recorded c w w :=
  ⟨rfl, rfl, rfl, rfl, fun _ h => Or.inl h, fun _ h => Or.inl h⟩

/-- **What an answered call does** to the world, in five kinds. The calls that only read are
among the last. -/
inductive LRPStep (w : LRPWorld) : Call → LRPWorld → Prop where
  /-- a guid is generated -/
  | generated {guid : String} : guid ∉ w.generated →
      LRPStep w .generateInstanceGuid { w with generated := insert guid w.generated }
  /-- some requests are accepted -/
  | allocated {requests accepted : List AllocationRequest} : accepted.Sublist requests →
      LRPStep w (.allocateContainers requests) (w.allocate accepted)
  /-- a container is deleted -/
  | deleted {c : Call} {w' : LRPWorld} : Drifts w w' → LRPStep w c w'
  /-- an operation is queued -/
  | pushed {op : Operation} : LRPStep w (.push op) { w with queued := insert op w.queued }
  /-- the BBS moves on, or nothing happens -/
  | recorded {c : Call} {w' : LRPWorld} : Recorded c w w' → LRPStep w c w'

/-- Every answer is one of these steps. -/
theorem step_of_answer (hact : lrpAnswer w c r w') : LRPStep w c w' := by
  -- calls that only ask leave the world as it is
  have hsame : w' = w → LRPStep w c w' := by
    rintro rfl
    exact .recorded (.refl c w')
  cases c with
  | generateInstanceGuid =>
    cases r with
    | error err => exact .recorded hact
    | ok guid =>
      obtain ⟨hnew, rfl⟩ := hact
      exact .generated hnew
  | allocateContainers requests =>
    obtain ⟨accepted, hsub, rfl⟩ := hact
    exact .allocated hsub
  | getContainer guid =>
    cases r with
    | error err => exact hsame hact.1
    | ok container => exact hsame hact.1
  | listContainers =>
    cases r with
    | error err => exact .recorded hact
    | ok cs => exact hsame hact.1
  | actualLRPGroups cellID =>
    cases r with
    | error err => exact .recorded hact
    | ok groups => exact hsame hact.1
  | deleteContainer guid =>
    rcases hact with hact | rfl
    · exact hsame hact
    · exact .deleted (drifts_delete w guid)
  | push op =>
    obtain rfl : w' = _ := hact
    exact .pushed
  | _ => exact .recorded hact

/-- A step allocates guids the caller owns, and nothing if it is no allocation. -/
theorem LRPStep.evolves (hstep : LRPStep w c w') (hc : g.Allows c) :
    (∃ requests fresh, c = .allocateContainers requests ∧ fresh ⊆ g.owned ∧
      Evolves w w' fresh) ∨ Evolves w w' ∅ := by
  cases hstep with
  | @allocated requests accepted hsub =>
    refine Or.inl ⟨requests, _, rfl, ?_, evolves_allocate w accepted⟩
    rintro guid ⟨req, hreq, rfl⟩
    exact (hc req (hsub.subset hreq)).1
  | generated _ =>
    exact Or.inr ⟨Set.subset_insert _ _, (Set.union_empty _).symm, fun _ _ h => h⟩
  | deleted hdrift => exact Or.inr hdrift.evolves
  | pushed => exact Or.inr ⟨subset_rfl, (Set.union_empty _).symm, fun _ _ h => h⟩
  | recorded hrec => exact Or.inr hrec.evolves

/-- Whoever writes a record knows its guid to have been allocated. -/
theorem known_of_writes {record : ActualLRP} (hc : g.Allows c) (hwrites : Writes record c) :
    recordGuid record ∈ g.known := by
  cases c with
  | claimActualLRP =>
    obtain ⟨-, -, rfl⟩ := hwrites
    exact hc
  | startActualLRP | evacuateClaimedActualLRP | evacuateRunningActualLRP
  | evacuateStoppedActualLRP | evacuateCrashedActualLRP =>
    obtain rfl := hwrites
    exact hc
  | _ => exact hwrites.elim

/-- The BBS keeps the invariant if the records written are of allocated guids. -/
theorem Recorded.sound (h : Recorded c w w') (hw : w.Sound)
    (hwrites : ∀ record, Writes record c → recordGuid record ∈ w.allocated) : w'.Sound := by
  refine ⟨?_, ?_, ?_, ?_, ?_⟩
  · rw [h.containers, h.allocated]
    exact hw.containers
  · rw [h.allocated, h.generated]
    exact hw.allocated
  · intro record hmem
    rw [h.allocated]
    rcases h.instances record hmem with hold | hnew
    · exact hw.instances record hold
    · exact hwrites record hnew
  · intro record hmem
    rw [h.allocated]
    rcases h.evacuating record hmem with hold | hnew
    · exact hw.evacuating record hold
    · exact hwrites record hnew
  · rw [h.queued, h.allocated]
    exact hw.queued

/-- What happens without the rep keeps the invariant, because guids and tags of containers
stay. -/
theorem Drifts.sound (h : Drifts w w') (hw : w.Sound) : w'.Sound := by
  refine ⟨?_, ?_, ?_, ?_, ?_⟩
  · intro guid container' hfound
    obtain ⟨container, hold, hguid, htags⟩ := h.containers guid container' hfound
    rw [hguid, htags, h.allocated]
    exact hw.containers guid container hold
  · rw [h.allocated, h.generated]
    exact hw.allocated
  · intro record hmem
    rw [h.allocated]
    exact hw.instances record (h.instances hmem)
  · intro record hmem
    rw [h.allocated]
    exact hw.evacuating record (h.evacuating hmem)
  · rw [h.queued, h.allocated]
    exact hw.queued

/-- Accepting requests for LRPs under generated guids keeps the invariant. The new containers
carry the tags of their requests. -/
theorem sound_allocate {requests : List AllocationRequest} (hw : w.Sound)
    (hreqs : ∀ req ∈ requests, req.guid ∈ w.generated ∧ Identified req.guid req.tags) :
    (w.allocate requests).Sound := by
  have hgrow : w.allocated ⊆ (w.allocate requests).allocated := Set.subset_union_left
  refine ⟨?_, ?_, fun record hmem => hgrow (hw.instances record hmem),
    fun record hmem => hgrow (hw.evacuating record hmem),
    fun op hop guid hguid => hgrow (hw.queued op hop guid hguid)⟩
  · intro guid container hfound
    rcases hfind : requests.find? fun req => req.guid = guid with _ | req
    · simp only [LRPWorld.allocate, hfind, Option.map_none, Option.none_or] at hfound
      obtain ⟨hguid, halloc, hid⟩ := hw.containers guid container hfound
      exact ⟨hguid, hgrow halloc, hid⟩
    · simp only [LRPWorld.allocate, hfind, Option.map_some, Option.some_or,
        Option.some.injEq] at hfound
      subst hfound
      have hmem := List.mem_of_find?_eq_some hfind
      obtain rfl : req.guid = guid := by simpa using List.find?_some hfind
      exact ⟨rfl, Set.mem_union_right _ ⟨req, hmem, rfl⟩, (hreqs req hmem).2⟩
  · rintro guid (hold | ⟨req, hmem, rfl⟩)
    · exact hw.allocated hold
    · exact (hreqs req hmem).1

/-- A step of the rep keeps the invariant of the world, given what the caller knows and is
allowed to do. -/
theorem LRPStep.sound (hstep : LRPStep w c w') (hw : w.Sound) (hg : g.Holds w)
    (hc : g.Allows c) : w'.Sound := by
  cases hstep with
  | allocated hsub =>
    apply sound_allocate hw
    intro req hreq
    obtain ⟨howned, hid⟩ := hc req (hsub.subset hreq)
    exact ⟨(hg.owned _ howned).1, hid⟩
  | generated _ =>
    exact ⟨hw.containers, hw.allocated.trans (Set.subset_insert _ _), hw.instances,
      hw.evacuating, hw.queued⟩
  | deleted hdrift => exact hdrift.sound hw
  | pushed =>
    refine ⟨hw.containers, hw.allocated, hw.instances, hw.evacuating, ?_⟩
    rintro op' (rfl | hop) guid hguid
    · exact hg.known (hc guid hguid)
    · exact hw.queued op' hop guid hguid
  | recorded hrec =>
    exact hrec.sound hw fun record hwrites => hg.known (known_of_writes hc hwrites)

/-- What a program learns from a reply is true. A guid just generated has not been allocated,
as all allocated guids were generated before. -/
theorem learn_holds (hw : w.Sound) (hg : g.Holds w) (hc : g.Allows c)
    (hact : lrpAnswer w c r w') : (g.learn c r).Holds w' := by
  rcases (step_of_answer hact).evolves hc with ⟨requests, fresh, rfl, hfresh, he⟩ | he
  · -- what is left after an allocation owns nothing
    have hrest : (g.learn (.allocateContainers requests) r).Holds w :=
      ⟨fun guid hguid => absurd hguid (Set.notMem_empty guid), hg.known, hg.gone⟩
    exact hrest.evolve he fun guid hguid =>
      ⟨Set.notMem_empty guid, (hg.owned guid (hfresh hguid)).2⟩
  · have hkeep := hg.evolve_empty he
    cases c with
    | allocateContainers requests =>
      exact ⟨fun guid hguid => absurd hguid (Set.notMem_empty guid), hkeep.known, hkeep.gone⟩
    | generateInstanceGuid =>
      cases r with
      | error err => exact hkeep
      | ok guid =>
        obtain ⟨hnew, rfl⟩ := hact
        refine ⟨?_, hkeep.known, hkeep.gone⟩
        rintro guid' (rfl | hguid')
        · exact ⟨Set.mem_insert _ _, fun halloc => hnew (hw.allocated halloc)⟩
        · exact hkeep.owned guid' hguid'
    | getContainer guid =>
      cases r with
      | error err =>
        obtain ⟨rfl, hnone⟩ := hact
        refine ⟨hkeep.owned, hkeep.known, ?_⟩
        rintro guid' (hguid' | ⟨rfl, hknown⟩)
        · exact hkeep.gone guid' hguid'
        · exact ⟨hkeep.known hknown, hnone⟩
      | ok container =>
        obtain ⟨rfl, hfound⟩ := hact
        obtain ⟨rfl, halloc, -⟩ := hw.containers guid container hfound
        exact ⟨hkeep.owned, Set.insert_subset halloc hkeep.known, hkeep.gone⟩
    | actualLRPGroups cellID =>
      cases r with
      | error err => exact hkeep
      | ok groups =>
        obtain ⟨rfl, hinstances, hevacuating⟩ := hact
        refine ⟨hkeep.owned, Set.union_subset hkeep.known ?_, hkeep.gone⟩
        rintro guid ⟨record, hmem, rfl⟩
        rcases List.mem_append.mp hmem with hmem | hmem
        · exact hw.instances record (hinstances record hmem)
        · exact hw.evacuating record (hevacuating record hmem)
    | _ => exact hkeep

/-- What a caller owns after a reply it owned before, or it was just generated. Either way
nobody else owns it. -/
theorem owned_learn (hact : lrpAnswer w c r w') :
    ∀ guid ∈ (g.learn c r).owned, guid ∈ g.owned ∨ guid ∉ w.generated := by
  intro guid hguid
  cases c with
  | generateInstanceGuid =>
    cases r with
    | error err => exact Or.inl hguid
    | ok guid' =>
      rcases hguid with rfl | hguid
      · exact Or.inr hact.1
      · exact Or.inl hguid
  | allocateContainers requests => exact absurd hguid (Set.notMem_empty guid)
  | getContainer asked => cases r <;> exact Or.inl hguid
  | actualLRPGroups cellID => cases r <;> exact Or.inl hguid
  | _ => exact Or.inl hguid

end

/-- The contract of the pool: knowledge is true, and no two programs own a guid. The second
part is what `Knowledge.Holds.evolve` asks for when somebody else allocates. -/
def lrpContract (C : Cell) : Contract (lrpSystem C) Knowledge where
  spec := lrpSpec
  init := Job.knowledge
  inv := LRPWorld.Sound
  holds w g := g.Holds w
  compat g g' := Disjoint g.owned g'.owned
  compat_symm h := h.symm
  env_ok := fun hw hdrift => ⟨hdrift.sound hw, fun g hg => hg.evolve_empty hdrift.evolves⟩
  spawn_ok := fun {w job p} hw hspawn => by
    cases job with
    | perform lrps =>
      obtain rfl := hspawn
      exact ⟨wp_perform,
        ⟨by simp [Job.knowledge], by simp [Job.knowledge], by simp [Job.knowledge]⟩,
        fun g => Set.empty_disjoint _⟩
    | sync s =>
      obtain rfl := hspawn
      exact ⟨wp_sync_lrp,
        ⟨by simp [Job.knowledge], by simp [Job.knowledge], by simp [Job.knowledge]⟩,
        fun g => Set.empty_disjoint _⟩
    | operation op =>
      obtain ⟨rfl, hqueued⟩ := hspawn
      refine ⟨wp_execute op,
        ⟨by simp [Job.knowledge], fun guid hguid => ?_, by simp [Job.knowledge]⟩,
        fun g => Set.empty_disjoint _⟩
      have hres : op.isResidual = true := by
        cases op <;> first | rfl | cases hguid
      exact hw.queued op (hqueued hres) guid hguid
  act_ok := fun {w g c r w'} hw hg hc hact => by
    refine ⟨?_, (step_of_answer hact).sound hw hg hc, learn_holds hw hg hc hact,
      fun g' hg' hcompat => ⟨?_, ?_⟩⟩
    · cases c with
      | getContainer guid =>
        cases r with
        | error err => trivial
        | ok container =>
          obtain ⟨rfl, -, hid⟩ := hw.containers guid container hact.2
          exact hid
      | _ => trivial
    · rcases (step_of_answer hact).evolves hc with ⟨requests, fresh, -, hfresh, he⟩ | he
      · exact hg'.evolve he fun guid hguid =>
          ⟨fun hmem => Set.disjoint_left.mp hcompat (hfresh hguid) hmem,
            (hg.owned guid (hfresh hguid)).2⟩
      · exact hg'.evolve_empty he
    · apply Set.disjoint_left.mpr
      intro guid hmem hmem'
      rcases owned_learn hact guid hmem with hold | hnew
      · exact Set.disjoint_left.mp hcompat hold hmem'
      · exact hnew (hg'.owned guid hmem').1

/-- The call asks the BBS to remove a record of the instance `guid`, be it the instance record
or the evacuating one. -/
def Removes (guid : String) : Call → Prop
  | .removeActualLRP _ _ instanceKey | .removeEvacuatingActualLRP _ instanceKey =>
    instanceKey.instanceGuid = guid
  | _ => False

/-- A residual operation that may ask for a removal has found the container gone. -/
theorem gone_of_removes {g : Knowledge} {c : Call} {guid : String} (hc : g.Allows c)
    (hres : g.residual = true) (hremoves : Removes guid c) : guid ∈ g.gone := by
  cases c with
  | removeActualLRP | removeEvacuatingActualLRP =>
    obtain rfl := hremoves
    exact hc hres
  | _ => exact hremoves.elim

/-- The invariant holds in the beginning, there being nothing it speaks about. -/
theorem LRPWorld.initial_sound : LRPWorld.initial.Sound := by
  refine ⟨?_, Set.empty_subset _, ?_, ?_, ?_⟩
  · intro guid container hfound
    cases hfound
  · intro record hmem
    exact absurd hmem (Set.notMem_empty _)
  · intro record hmem
    exact absurd hmem (Set.notMem_empty _)
  · intro op hmem
    exact absurd hmem (Set.notMem_empty _)

/-- Whether a program is a residual operation is a matter of its label: no reply changes it. -/
theorem residual_ghost (C : Cell) (th : Thread Call Reply Job) :
    ((lrpContract C).ghost th).residual = th.label.knowledge.residual := by
  refine Spec.after_unchanged lrpSpec Knowledge.residual (fun g c r => ?_) th.past _
  cases c with
  | generateInstanceGuid | getContainer | actualLRPGroups => cases r <;> rfl
  | _ => rfl

/-- Knowing of one allocated guid that its container is absent, and nothing else. It serves as
an observer who takes no part in the run. -/
def Knowledge.ofGone (guid : String) : Knowledge := ⟨false, ∅, ∅, {guid}⟩

/-- The knowledge that a container is gone, read as a fact of the world: it was allocated once
and the executor has none now. -/
theorem holds_ofGone {guid : String} {w : LRPWorld} :
    (Knowledge.ofGone guid).Holds w ↔ guid ∈ w.allocated ∧ w.containers guid = none := by
  refine ⟨fun h => h.gone guid rfl, fun h => ⟨?_, Set.empty_subset _, ?_⟩⟩
  · exact fun _ hmem => absurd hmem (Set.notMem_empty _)
  · rintro _ rfl
    exact h

/-- **The residual path never removes a live LRP.** Whenever, in any run, a residual
operation is about to ask the BBS to remove a record, the container of that instance is
absent, and it is absent ever after. -/
theorem residual_never_removes_live (C : Cell) (cfg cfg' : Config Call Reply LRPWorld Job)
    (hrun : (lrpSystem C).Reachable ⟨LRPWorld.initial, []⟩ cfg)
    (hlater : (lrpSystem C).Reachable cfg cfg') (th : Thread Call Reply Job)
    (hth : th ∈ cfg.threads) (op : Operation) (hlabel : th.label = .operation op)
    (hop : op.isResidual = true) (c : Call) (k : Reply c → RepM Unit)
    (hpending : th.rest = .call c k) (guid : String) (hremoves : Removes guid c) :
    cfg.world.containers guid = none ∧ cfg'.world.containers guid = none := by
  have hm := (lrpContract C).sound LRPWorld.initial_sound hrun
  have hres : ((lrpContract C).ghost th).residual = true := by
    rw [residual_ghost, hlabel]
    exact hop
  have hgone : guid ∈ ((lrpContract C).ghost th).gone :=
    gone_of_removes (hm.licensed hth hpending) hres hremoves
  obtain ⟨halloc, hnone⟩ := (hm.keeps th hth).1.gone guid hgone
  -- someone who owns nothing and knows only this knows it for ever
  have hafter : (Knowledge.ofGone guid).Holds cfg'.world :=
    hm.observe hlater (fun g => disjoint_bot_right) (holds_ofGone.mpr ⟨halloc, hnone⟩)
  exact ⟨hnone, (holds_ofGone.mp hafter).2⟩

/-! ### One removal

An LRP is placed and claimed, its container vanishes, a sync queues the residual
operation, and the operation is about to remove the record. -/

/-- The record of the sample LRP after its claim. -/
def sampleClaimed : ActualLRP := ⟨⟨"process", 3, "domain"⟩, ⟨"guid", "cell"⟩⟩

/-- The residual operation for it, as a sync would make it. -/
def sampleResidual : Operation := .residualInstance sampleClaimed.key sampleClaimed.instanceKey

/-- The world after the LRP was placed: one guid generated, and allocated. -/
def samplePlaced : LRPWorld :=
  LRPWorld.allocate { LRPWorld.initial with generated := insert "guid" ∅ }
    [lrpRequest sampleLRP "guid" ""]

/-- The world when the container has vanished and the operation is queued. -/
def sampleQueued : LRPWorld where
  containers := fun _ => none
  generated := samplePlaced.generated
  allocated := samplePlaced.allocated
  instances := {sampleClaimed}
  evacuating := ∅
  queued := insert sampleResidual ∅

/-- The run up to the removal: a placement, a claim, a container that vanishes by itself, and
a sync. -/
theorem sampleQueued_reachable : ∃ ts : List (Thread Call Reply Job),
    (lrpSystem Cell.sample).Reachable ⟨LRPWorld.initial, []⟩ ⟨sampleQueued, ts⟩ := by
  let claimed : LRPWorld := { samplePlaced with instances := {sampleClaimed} }
  let vanished : LRPWorld := { claimed with containers := fun _ => none }
  have hperform : Prog.Exec lrpAnswer (do let _ ← perform Cell.sample ⟨[sampleLRP], []⟩; return)
      LRPWorld.initial [⟨.evacuating, false⟩, ⟨.generateInstanceGuid, .ok "guid"⟩,
        ⟨.allocateContainers [lrpRequest sampleLRP "guid" ""], .ok []⟩] () samplePlaced :=
    .call (Recorded.refl _ _) (.call ⟨Set.notMem_empty _, rfl⟩
      (.call ⟨_, List.Sublist.refl _, rfl⟩ (.ret _ _)))
  have hwrites : lrpAnswer samplePlaced (.claimActualLRP "process" 3 ⟨"guid", "cell"⟩) none
      claimed := by
    refine ⟨rfl, rfl, rfl, rfl, ?_, fun _ h => Or.inl h⟩
    intro record hmem
    obtain rfl : record = sampleClaimed := hmem
    exact Or.inr ⟨rfl, rfl, rfl⟩
  have hclaim : Prog.Exec lrpAnswer (Operation.execute Cell.sample (.container "guid"))
      samplePlaced [⟨.getContainer "guid", .ok sampleReserved⟩, ⟨.evacuating, false⟩,
        ⟨.claimActualLRP "process" 3 ⟨"guid", "cell"⟩, none⟩,
        ⟨.desiredLRPByProcessGuid "process", .error (.text "unavailable")⟩] () claimed :=
    .call ⟨rfl, rfl⟩ (.call (Recorded.refl _ _)
      (.call hwrites (.call (Recorded.refl _ _) (.ret _ _))))
  -- the container disappears without a call of the rep
  have hvanish : Drifts claimed vanished :=
    ⟨rfl, rfl, rfl, fun _ _ h => (Option.some_ne_none _ h.symm).elim, subset_rfl, subset_rfl⟩
  have hsync : Prog.Exec lrpAnswer (sync Cell.sample Schedule.inOrder) vanished
      [⟨.listContainers, .ok []⟩, ⟨.actualLRPGroups "cell", .ok [⟨some sampleClaimed, none⟩]⟩,
        ⟨.tasksByCellID "cell", .ok []⟩, ⟨.push sampleResidual, ()⟩] () sampleQueued := by
    refine .call ⟨rfl, fun _ h => absurd h List.not_mem_nil⟩ (.call ⟨rfl, fun record hmem => ?_,
      fun _ h => absurd h List.not_mem_nil⟩ (.call (Recorded.refl _ _) (.call rfl (.ret _ _))))
    exact List.mem_singleton.mp hmem
  have hspawn : (lrpSystem Cell.sample).spawn samplePlaced (.operation (.container "guid"))
      (Operation.execute Cell.sample (.container "guid")) := ⟨rfl, fun h => absurd h (by decide)⟩
  have hplaced : (lrpSystem Cell.sample).Reachable ⟨LRPWorld.initial, []⟩ ⟨samplePlaced, _⟩ :=
    System.Reachable.spawn_exec (l := .perform [sampleLRP]) rfl hperform []
  have hvanished : (lrpSystem Cell.sample).Reachable ⟨LRPWorld.initial, []⟩ ⟨vanished, _⟩ :=
    (hplaced.trans (System.Reachable.spawn_exec hspawn hclaim _)).tail (.env hvanish)
  exact ⟨_, hvanished.trans
    (System.Reachable.spawn_exec (l := .sync Schedule.inOrder) rfl hsync _)⟩

/-- The operation is started and finds the container absent. -/
theorem sampleResidual_removes_gone : ∃ (cfg : Config Call Reply LRPWorld Job)
    (th : Thread Call Reply Job) (k : Option Err → RepM Unit),
    (lrpSystem Cell.sample).Reachable ⟨LRPWorld.initial, []⟩ cfg ∧ th ∈ cfg.threads ∧
    th.rest = .call (.removeActualLRP "process" 3 ⟨"guid", "cell"⟩) k ∧
    cfg.world.containers "guid" = none := by
  obtain ⟨ts, hrun⟩ := sampleQueued_reachable
  let th : Thread Call Reply Job := ⟨.operation sampleResidual,
    [⟨.getContainer "guid", .error .containerNotFound⟩],
    .call (.removeActualLRP "process" 3 ⟨"guid", "cell"⟩) fun _ => .ret ()⟩
  have hpending : (lrpSystem Cell.sample).Reachable ⟨LRPWorld.initial, []⟩
      ⟨sampleQueued, th :: ts⟩ :=
    (hrun.tail (.spawn (l := Job.operation sampleResidual) ⟨rfl, fun _ => Set.mem_insert _ _⟩)).tail
      (.act [] ts ⟨rfl, rfl⟩)
  have hgone := residual_never_removes_live Cell.sample _ _ hpending .refl th
    (List.mem_cons_self ..) sampleResidual rfl rfl _ _ rfl "guid" rfl
  exact ⟨_, th, _, hpending, List.mem_cons_self .., rfl, hgone.1⟩

end CellRep
