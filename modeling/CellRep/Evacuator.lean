import CellRep.AuctionCell
import CellRep.Journal

/-!
# The evacuator

When the cell is told to evacuate, the evacuator lists the executor's containers until
there are none and then declares the evacuation done (`evacuation/evacuation.go`). New work
is kept off by the evacuation context: `Perform` looks at it once, before it allocates
anything (`auctioncellrep/auction_cell_rep.go`).

Any number of clients runs beside the evacuator and its goroutine: `Perform` with any
work, `Evacuate`, and the deletion of containers. Every call is a step of its own, so a
`Perform` can be anywhere between the look and its allocations when the evacuator lists.
The executor is truthful: it lists what was allocated and not deleted.
-/

namespace CellRep

open Executor (AllocationRequest AllocationFailure Container)

namespace Evacuator

/-! ## Calls

The rep's own calls are embedded as they are, so `Perform` is the program of the module on the
auction and not a model of it. Channels and timers of the evacuator are calls beside them. -/

/-- The first select of `Run`: a signal, or the notice that the context is set. -/
inductive Notice : Type where
  | signalled : Notice
  | notified : Notice
  deriving DecidableEq

/-- The second select of `Run`. All three outcomes make it return nil; only the first one says
that the cell is empty. -/
inductive Outcome : Type where
  | done : Outcome
  | timeout : Outcome
  | signalled : Outcome
  deriving DecidableEq

/-- The calls of the rep, and those of the evacuator. -/
inductive Call : Type where
  | rep (c : CellRep.Call)
  /-- `evacuationContext.Evacuate` -/
  | evacuate
  -- `Run`
  | closeReady
  | awaitNotice
  | goEvacuate
  | awaitOutcome
  -- `evacuate`
  | beginEvacuate
  | awaitTimer
  | closeDone
  /-- a loop is cut off -/
  | cut
  deriving DecidableEq

/-- What each call is answered with. A cut has no answer. -/
@[reducible] def Reply : Call → Type
  | .rep c => CellRep.Reply c
  | .awaitNotice => Notice
  | .awaitOutcome => Outcome
  | .cut => Empty
  | _ => Unit

/-- The programs that run beside each other. -/
abbrev EvacM : Type → Type := Prog Call Reply

/-- A program of the rep, run here. -/
def ofRep {α : Type} (p : RepM α) : EvacM α := Prog.embed Call.rep p

@[simp] def EvacuationContext.evacuate : EvacM Unit := Prog.call .evacuate Prog.ret

@[simp] def closeReady : EvacM Unit := Prog.call .closeReady Prog.ret

@[simp] def awaitNotice : EvacM Notice := Prog.call .awaitNotice Prog.ret

@[simp] def goEvacuate : EvacM Unit := Prog.call .goEvacuate Prog.ret

@[simp] def awaitOutcome : EvacM Outcome := Prog.call .awaitOutcome Prog.ret

@[simp] def beginEvacuate : EvacM Unit := Prog.call .beginEvacuate Prog.ret

@[simp] def awaitTimer : EvacM Unit := Prog.call .awaitTimer Prog.ret

@[simp] def closeDone : EvacM Unit := Prog.call .closeDone Prog.ret

/-- Nothing comes after a cut: the polling loop has no bound of its own. -/
@[simp] def cut {α : Type} : EvacM α := Prog.call .cut nofun

/-! ## The evacuator's code

`Run` and the goroutine it starts when it is notified. -/

/-- `Evacuator.Run`, which returns nil in any case. -/
def run : EvacM Unit := do
  closeReady
  match ← awaitNotice with
  | .signalled => return ()
  | .notified =>
    goEvacuate
    let _ ← awaitOutcome
    return ()

/-- `allContainersEvacuated`: a listing that fails counts as not empty, so it is tried again. -/
def allContainersEvacuated : RepM Bool := do
  match ← Client.listContainers with
  | .error _ => return false
  | .ok containers => return containers.isEmpty

/-- One round of `evacuate`: a listing, and the polling interval if something is left. -/
def evacuateRound (_ : Unit) : EvacM (Unit ⊕ Unit) := do
  let evacuated ← ofRep allContainersEvacuated
  if evacuated then return .inr ()
  else
    awaitTimer
    return .inl ()

/-- `Evacuator.evacuate`, the goroutine. It is not stopped when `Run` returns for another
reason. -/
def evacuate (fuel : ℕ) : EvacM Unit := do
  beginEvacuate
  Prog.loop cut evacuateRound fuel ()
  closeDone

/-! ## Everything that runs

The clients are there from the beginning and may take their first step at any time, which is
as good as starting them later. -/

/-- What is called from outside: a placement, the order to evacuate, or the deletion of a
container. -/
inductive Client : Type where
  | perform : Work → Client
  | evacuate : Client
  | deleteContainer : String → Client
  deriving DecidableEq

/-- Who runs; there is one evacuator, and there are any number of clients. -/
inductive Role : Type where
  | run : Role
  | evacuate : Role
  | client : Client → Role
  deriving DecidableEq

/-- What a client runs: the one call it is there for. -/
def Client.prog (cell : Cell) : Client → EvacM Unit
  | .perform work => do
    let _ ← ofRep (CellRep.perform cell work)
    return ()
  | .evacuate => EvacuationContext.evacuate
  | .deleteContainer guid => do
    let _ ← ofRep (CellRep.Client.deleteContainer guid)
    return ()

/-- The program each thread of the rep's process starts with. -/
def prog (cell : Cell) (fuel : ℕ) : Role → EvacM Unit
  | .run => run
  | .evacuate => Evacuator.evacuate fuel
  | .client client => client.prog cell

/-! ## The world

The context and the executor are both read off the journal: the context is set once there was
a call to set it, and the executor holds what was allocated and not deleted. -/

/-- What happened so far: nothing happens but calls. -/
abbrev World : Type := Journal Call Reply Empty

/-- An entry of the journal, which is always an answered call. -/
abbrev Entry : Type := Event Call Reply ⊕ Empty

/-- The evacuation context is set by this call. -/
def isEvacuate : Entry → Bool
  | .inl ⟨.evacuate, _⟩ => true
  | _ => false

/-- `evacuationContext.Evacuating`. That the context may be taken for atomic like this is the
subject of the next module. -/
def Evacuating (w : World) : Bool := w.any isEvacuate

/-- The guids an allocation brings: those of the requests that did not fail. -/
def allocated (requests : List AllocationRequest) (failures : List AllocationFailure) :
    List String :=
  (requests.map AllocationRequest.guid).filter fun guid =>
    guid ∉ failures.map fun failure => failure.request.guid

/-- The executor's containers after one more entry. An allocation that fails as a whole brings
nothing. -/
def holdNext (guids : List String) : Entry → List String
  | .inl ⟨.rep (.allocateContainers requests), .ok failures⟩ => guids ++ allocated requests failures
  | .inl ⟨.rep (.deleteContainer guid), none⟩ => guids.filter fun other => other ≠ guid
  | _ => guids

/-- The guids of the containers the executor holds. -/
def held (w : World) : List String := w.foldl holdNext []

/-- Which reply can be given when. A listing shows exactly the guids that are held; it may
repeat them, and it may fail at any time. -/
def Enabled (w : World) : (c : Call) → Reply c → Prop
  | .rep .evacuating, isEvacuating => isEvacuating = Evacuating w
  | .rep .listContainers, .ok containers =>
    ∀ guid, guid ∈ containers.map Container.guid ↔ guid ∈ held w
  | .awaitNotice, .notified => Evacuating w = true
  | .beginEvacuate, _ => .inl ⟨.goEvacuate, ()⟩ ∈ w
  | .awaitOutcome, .done => .inl ⟨.closeDone, ()⟩ ∈ w
  | _, _ => True

/-- The evacuator, its clients and their world. -/
def system : System Call Reply World Role := System.journal Role Enabled nofun

/-- The evacuator and its clients before the first step. -/
def start (cell : Cell) (fuel : ℕ) (clients : List Client) : Config Call Reply World Role :=
  ⟨[], (.run :: .evacuate :: clients.map .client).map fun role =>
    ⟨role, [], prog cell fuel role⟩⟩

/-- The executor has listed its containers, and there were none. -/
abbrev listedEmpty : Entry := .inl ⟨.rep .listContainers, .ok []⟩

/-- The done channel is closed, which is how the goroutine declares the end. -/
def Done (w : World) : Prop := .inl ⟨.closeDone, ()⟩ ∈ w

section

variable {w : World} {x : Entry}

/-- A context that is set stays set. -/
theorem Evacuating.append (h : Evacuating w = true) (l : World) : Evacuating (w ++ l) = true := by
  rw [Evacuating, List.any_append, Bool.or_eq_true]
  exact .inl h

@[simp] theorem held_concat : held (w ++ [x]) = holdNext (held w) x := by
  simp [held]

end

/-! ## The protocol

The order of the evacuator's own steps: the goroutine lists only when the context is set, and
closes the channel only after an empty listing. Clients have one phase, in which they may make
any call of theirs. -/

/-- Where a thread is. `Run` and the goroutine go through phases of their own. -/
inductive Phase : Type where
  /-- `Run` waits for the notice -/
  | waiting : Phase
  /-- `Run` has seen the context set -/
  | notified : Phase
  /-- the goroutine has not begun -/
  | idle : Phase
  | polling : Phase
  | evacuated : Phase
  /-- nothing is left to do -/
  | over : Phase
  /-- a call from outside -/
  | client : Phase
  deriving DecidableEq

namespace Phase

/-- The phase a thread begins in. -/
def init : Role → Phase
  | .run => .waiting
  | .evacuate => .idle
  | .client _ => .client

/-- The calls a client makes: those of `Perform`, the order to evacuate, and a deletion. -/
def ClientCall : Call → Prop
  | .rep .evacuating => True
  | .rep .generateInstanceGuid => True
  | .rep (.allocateContainers _) => True
  | .rep (.deleteContainer _) => True
  | .evacuate => True
  | _ => False

/-- What a phase allows. Only the goroutine lists containers, and only in one phase. -/
inductive Allows : Phase → Call → Prop where
  | closeReady : Allows .waiting .closeReady
  | awaitNotice : Allows .waiting .awaitNotice
  | goEvacuate : Allows .notified .goEvacuate
  | awaitOutcome : Allows .notified .awaitOutcome
  | beginEvacuate : Allows .idle .beginEvacuate
  | list : Allows .polling (.rep .listContainers)
  | awaitTimer : Allows .polling .awaitTimer
  | cut : Allows .polling .cut
  | closeDone : Allows .evacuated .closeDone
  | client {c : Call} : ClientCall c → Allows .client c

/-- The phase after an answered call. An empty listing is what ends the polling. -/
def next (g : Phase) : (c : Call) → Reply c → Phase
  | .awaitNotice, .notified => .notified
  | .awaitNotice, .signalled => .over
  | .beginEvacuate, _ => .polling
  | .rep .listContainers, .ok [] => .evacuated
  | .closeDone, _ => .over
  | _, _ => g

end Phase

/-- The protocol as a ghost specification; nothing is expected of the replies. -/
def protocol : Spec Call Reply Phase where
  pre := Phase.Allows
  ans _ _ _ := True
  next := Phase.next

/-! ## The threads keep to the protocol

The evacuator's two programs are checked step by step. Of a client only the set of its calls
matters, and that is known from what the programs of the rep may call. -/

/-- `Run` starts the goroutine only after it was notified. -/
theorem wp_run : run.wp protocol (fun _ _ => True) .waiting := by
  refine ⟨.closeReady, fun _ _ => ⟨.awaitNotice, ?_⟩⟩
  rintro (_ | _) -
  · trivial
  · exact ⟨.goEvacuate, fun _ _ => ⟨.awaitOutcome, fun _ _ => trivial⟩⟩

/-- The loop ends with an empty listing, and with nothing else. -/
theorem wp_evacuateLoop (fuel : ℕ) :
    (Prog.loop cut evacuateRound fuel ()).wp protocol (fun g _ => g = .evacuated) .polling := by
  refine Prog.wp_loop (fun _ g => g = .polling) ?_ ?_ fuel rfl
  · rintro _ _ rfl
    exact ⟨.cut, nofun⟩
  · rintro _ _ rfl
    refine ⟨.list, ?_⟩
    rintro (err | _ | ⟨container, containers⟩) -
    · exact ⟨.awaitTimer, fun _ _ => rfl⟩
    · rfl
    · exact ⟨.awaitTimer, fun _ _ => rfl⟩

/-- The goroutine closes the channel in the phase that such a listing leaves it in. -/
theorem wp_evacuate (fuel : ℕ) : (evacuate fuel).wp protocol (fun _ _ => True) .idle := by
  refine ⟨.beginEvacuate, fun _ _ => ?_⟩
  refine (Prog.wp_bind (p := Prog.loop cut evacuateRound fuel ())).mpr
    (Prog.wp_mono ?_ (wp_evacuateLoop fuel))
  rintro _ _ rfl
  exact ⟨.closeDone, fun _ _ => trivial⟩

/-- The calls `Perform` makes: the look at the context, guids for LRPs, and allocations. -/
def PerformCall : CellRep.Call → Prop
  | .evacuating => True
  | .generateInstanceGuid => True
  | .allocateContainers _ => True
  | _ => False

/-- The loop over the LRPs generates guids and does nothing else. -/
theorem only_lrpsToAllocationRequestLoop (cell : Cell) (lrps : List LRP) :
    ∀ acc, (lrpsToAllocationRequestLoop cell acc lrps).Only PerformCall := by
  induction lrps with
  | nil => exact fun _ => trivial
  | cons lrp lrps ih =>
    intro acc
    refine ⟨trivial, ?_⟩
    rintro (err | guid)
    · exact ih _
    · dsimp only [Prog.bind]
      split
      · exact ih _
      · exact ih _

/-- The end of either half is one allocation. -/
theorem only_allocate {α : Type} (input : List α) (tr : Translation α) :
    (allocate input tr).Only PerformCall := by
  refine ⟨trivial, ?_⟩
  rintro (err | failures)
  · trivial
  · trivial

/-- `Perform` makes no other calls, whatever the work. -/
theorem only_perform (cell : Cell) (work : Work) : (perform cell work).Only PerformCall := by
  refine ⟨trivial, ?_⟩
  rintro (_ | _)
  · refine Prog.Only.bind (p := performLRPs cell work.lrps) ?_ fun failedLRPs =>
      Prog.Only.bind (p := performTasks cell work.tasks) ?_ fun failedTasks => trivial
    · cases work.lrps with
      | nil => trivial
      | cons lrp lrps =>
        exact (only_lrpsToAllocationRequestLoop cell (lrp :: lrps) _).bind fun tr =>
          only_allocate _ tr
    · cases work.tasks with
      | nil => trivial
      | cons task tasks => exact only_allocate _ _
  · trivial

/-- Clients make the calls of clients, whichever of the three they are. -/
theorem only_client (cell : Cell) (client : Client) :
    (client.prog cell).Only Phase.ClientCall := by
  cases client with
  | perform work =>
    refine Prog.Only.bind (Prog.Only.embed ((only_perform cell work).mono ?_)) fun _ => trivial
    intro c hc
    cases c <;> trivial
  | evacuate => exact ⟨trivial, fun _ => trivial⟩
  | deleteContainer guid => exact ⟨trivial, fun _ => trivial⟩

/-- A client stays a client: none of its calls moves a phase. -/
theorem next_client {c : Call} (hc : Phase.ClientCall c) (r : Reply c) :
    Phase.client.next c r = .client := by
  cases c with
  | rep c => cases c <;> first | rfl | exact hc.elim
  | evacuate => rfl
  | _ => exact hc.elim

/-- **Every thread keeps to the protocol.** -/
theorem wp_prog (cell : Cell) (fuel : ℕ) (role : Role) :
    (prog cell fuel role).wp protocol (fun _ _ => True) (.init role) := by
  cases role with
  | run => exact wp_run
  | evacuate => exact wp_evacuate fuel
  | client client =>
    have hstays : ∀ g c, g = Phase.client → Phase.ClientCall c → protocol.pre g c ∧
        ∀ r, protocol.ans g c r → protocol.next g c r = .client := by
      rintro _ c rfl hc
      exact ⟨.client hc, fun r _ => next_client hc r⟩
    exact Prog.wp_mono (fun _ _ _ => trivial) ((only_client cell client).wp hstays rfl)

/-! ## What the journal says about it

A phase is tied to the journal by what has happened before, and all of that is of a kind that
stays true. This is why any two threads are compatible here. -/

/-- What a phase says about the journal. -/
def Holds (w : World) : Phase → Prop
  | .notified => Evacuating w = true
  | .polling => Evacuating w = true
  | .evacuated => listedEmpty ∈ w
  | _ => True

/-- The licences of the evacuator's steps, read off the journal before them. -/
def Licence (w : World) : Entry → Prop
  | .inl ⟨.goEvacuate, _⟩ => Evacuating w = true
  | .inl ⟨.rep .listContainers, _⟩ => Evacuating w = true
  | .inl ⟨.closeDone, _⟩ => listedEmpty ∈ w
  | _ => True

/-- What a phase says stays true whatever happens next. -/
theorem Holds.append {w : World} {g : Phase} (h : Holds w g) (l : World) : Holds (w ++ l) g := by
  cases g with
  | notified => exact Evacuating.append h l
  | polling => exact Evacuating.append h l
  | evacuated => exact List.mem_append_left l h
  | _ => trivial

/-- What the next phase says. The goroutine has begun after `Run` was notified, so the context
was set then and is set now. -/
theorem Holds.next {w : World} {g : Phase} {c : Call} {r : Reply c} (hw : Every Licence w)
    (h : Holds w g) (hallows : g.Allows c) (henabled : Enabled w c r) :
    Holds (w ++ [.inl ⟨c, r⟩]) (g.next c r) := by
  cases hallows with
  | closeReady => trivial
  | awaitNotice =>
    cases r with
    | signalled => trivial
    | notified => exact Evacuating.append henabled _
  | goEvacuate => exact h.append _
  | awaitOutcome => exact h.append _
  -- the `go` statement came after the notice, and the notice after the flag was set
  | beginEvacuate =>
    obtain ⟨l₁, l₂, rfl, hnotified⟩ := hw.of_mem henabled
    exact Evacuating.append (Evacuating.append hnotified _) _
  | list =>
    rcases r with err | _ | ⟨container, containers⟩
    · exact h.append _
    · -- the empty listing is the entry that was just added
      exact List.mem_append_right w (List.mem_singleton.mpr rfl)
    · exact h.append _
  | awaitTimer => exact h.append _
  | cut => cases r
  | closeDone => trivial
  | client hc =>
    rw [next_client hc]
    trivial

/-- The protocol licenses what is written down. -/
theorem licence_next {w : World} {g : Phase} {c : Call} {r : Reply c} (h : Holds w g)
    (hallows : g.Allows c) : Licence w (.inl ⟨c, r⟩) := by
  cases hallows with
  | goEvacuate => exact h
  | list => exact h
  | closeDone => exact h
  | client hc =>
    cases c with
    | rep c => cases c <;> trivial
    | evacuate => trivial
    | _ => exact hc.elim
  | _ => trivial

/-- The contract among all threads. What a phase says no other thread can undo. -/
def contract : Contract system Phase where
  spec := protocol
  init := Phase.init
  inv := Every Licence
  holds := Holds
  compat _ _ := True
  compat_symm h := h
  env_ok := by
    rintro w _ _ ⟨x, -, -⟩
    cases x
  spawn_ok _ h := h.elim
  act_ok := by
    rintro w g c r _ hw h hallows ⟨henabled, rfl⟩
    exact ⟨trivial, every_concat.mpr ⟨hw, licence_next h hallows⟩, h.next hw hallows henabled,
      fun g' hg' _ => ⟨hg'.append _, trivial⟩⟩

/-- In every reachable configuration, each entry of the journal is licensed by those before it. -/
theorem licensed (cell : Cell) (fuel : ℕ) (clients : List Client)
    {cfg : Config Call Reply World Role} (h : system.Reachable (start cell fuel clients) cfg) :
    Every Licence cfg.world := by
  have hmeets : contract.Meets (start cell fuel clients) := by
    refine ⟨every_nil, ?_, List.pairwise_of_forall fun _ _ => trivial⟩
    intro th hth
    obtain ⟨role, -, rfl⟩ := List.mem_map.mp hth
    refine ⟨?_, wp_prog cell fuel role⟩
    cases role <;> trivial
  exact (hmeets.run h).inv

/-- Once an empty listing was made the context is set. -/
theorem evacuating_of_listedEmpty {w : World} (h : Every Licence w) (hempty : listedEmpty ∈ w) :
    Evacuating w = true := by
  obtain ⟨l₁, l₂, rfl, hset⟩ := h.of_mem hempty
  exact Evacuating.append hset _

/-- Once the channel is closed an empty listing was made. -/
theorem listedEmpty_of_done {w : World} (h : Every Licence w) (hdone : Done w) :
    listedEmpty ∈ w := by
  obtain ⟨l₁, l₂, rfl, hempty⟩ := h.of_mem hdone
  exact List.mem_append_left _ hempty

/-! ## Quiet programs

A program is quiet when it allocates nothing as long as the context is set. This is again a
specification, with the answer to the look at the context as the only thing it relies on. -/

/-- An allocation with a request in it. `Perform` also calls `AllocateContainers` when it
could turn no item into a request; that call brings no container. -/
def isAllocation : Call → Bool
  | .rep (.allocateContainers requests) => !requests.isEmpty
  | _ => false

/-- The context is said to be set, if this is the reply to a look at it. -/
def Refuses : (c : Call) → Reply c → Prop
  | .rep .evacuating, isEvacuating => isEvacuating = true
  | _, _ => True

/-- Nothing is allocated, the context being set. There is no ghost state to it. -/
def quiet : Spec Call Reply Unit where
  pre _ c := isAllocation c = false
  ans _ c r := Refuses c r
  next _ _ _ := ()

/-- The program allocates nothing from here on. -/
def Quiet (p : EvacM Unit) : Prop := p.wp quiet (fun _ _ => True) ()

/-- Before anything happened everyone is quiet; `Perform` is because it looks first. -/
theorem quiet_prog (cell : Cell) (fuel : ℕ) (role : Role) : Quiet (prog cell fuel role) := by
  cases role with
  | run =>
    refine ⟨rfl, fun _ _ => ⟨rfl, ?_⟩⟩
    rintro (_ | _) -
    · trivial
    · exact ⟨rfl, fun _ _ => ⟨rfl, fun _ _ => trivial⟩⟩
  | evacuate =>
    refine ⟨rfl, fun _ _ => ?_⟩
    refine (Prog.wp_bind (p := Prog.loop cut evacuateRound fuel ())).mpr ?_
    refine Prog.wp_loop (fun _ _ => True) ?_ ?_ fuel trivial
    · exact fun _ _ _ => ⟨rfl, nofun⟩
    · rintro _ _ -
      refine ⟨rfl, ?_⟩
      rintro (err | _ | ⟨container, containers⟩) -
      · exact ⟨rfl, fun _ _ => trivial⟩
      · exact ⟨rfl, fun _ _ => trivial⟩
      · exact ⟨rfl, fun _ _ => trivial⟩
  | client client =>
    cases client with
    | perform work =>
      refine ⟨rfl, ?_⟩
      -- with the context set the work is handed back before anything is allocated
      rintro _ rfl
      trivial
    | evacuate => exact ⟨rfl, fun _ _ => trivial⟩
    | deleteContainer guid => exact ⟨rfl, fun _ _ => trivial⟩

/-! ## When the end is the end

A `Perform` that has looked in time is the one thing that can bring a container after the end.
If there is none with an allocation left at the moment of the empty listing, all that run are
quiet from then on, and an executor that holds nothing goes on to hold nothing. -/

/-- No `Perform` that found the context unset has an allocation left to make. It may
still be under way: with its tasks answered, or with nothing but empty requests to come. -/
def Quiescent (cfg : Config Call Reply World Role) : Prop :=
  ∀ th ∈ cfg.threads, ⟨.rep .evacuating, false⟩ ∈ th.past →
    th.rest.Only fun c => isAllocation c = false

/-- A step of a run in which the empty listing comes only when no such `Perform` has an
allocation left. -/
def QuietStep (cfg cfg' : Config Call Reply World Role) : Prop :=
  system.Step cfg cfg' ∧ (cfg'.world = cfg.world ++ [listedEmpty] → Quiescent cfg)

/-- What holds along such a run: who found the context unset is known, and after the
empty listing everyone is quiet and nothing is there. -/
structure Settled (cfg : Config Call Reply World Role) : Prop where
  admitted : ∀ th ∈ cfg.threads, Quiet th.rest ∨ ⟨.rep .evacuating, false⟩ ∈ th.past
  empty : listedEmpty ∈ cfg.world → (∀ th ∈ cfg.threads, Quiet th.rest) ∧ held cfg.world = []

/-- A quiet program stays quiet when the context is set: the look is answered accordingly. -/
theorem Quiet.call {c : Call} {k : Reply c → EvacM Unit} (h : Quiet (.call c k)) {r : Reply c}
    (hr : Refuses c r) : Quiet (k r) :=
  h.2 r hr

/-- A program without allocations is quiet whatever the context. -/
theorem quiet_of_only {p : EvacM Unit} (h : p.Only fun c => isAllocation c = false) : Quiet p := by
  have hstays : ∀ (g : Unit) (c : Call), True → isAllocation c = false → quiet.pre g c ∧
      ∀ r, quiet.ans g c r → True :=
    fun _ _ _ hc => ⟨hc, fun _ _ => trivial⟩
  exact Prog.wp_mono (fun _ _ _ => trivial) (h.wp hstays trivial)

/-- The only reply that makes a quiet program loud is that the context is not set. -/
theorem refuses_or {c : Call} (r : Reply c) :
    Refuses c r ∨ (⟨c, r⟩ : Event Call Reply) = ⟨.rep .evacuating, false⟩ := by
  cases c with
  | rep c =>
    cases c with
    | evacuating =>
      cases r with
      | false => exact .inr rfl
      | true => exact .inl rfl
    | _ => exact .inl trivial
  | _ => exact .inl trivial

/-- With the context set every reply says so. -/
theorem refuses_of_enabled {w : World} {c : Call} {r : Reply c} (h : Enabled w c r)
    (hset : Evacuating w = true) : Refuses c r := by
  rcases refuses_or r with hr | hr
  · exact hr
  · cases hr
    have hunset : false = Evacuating w := h
    rw [hset] at hunset
    cases hunset

/-- Where nothing is held, an answered call that is no allocation leaves it so; a deletion
finds nothing to delete. -/
theorem holdNext_nil {c : Call} (h : isAllocation c = false) (r : Reply c) :
    holdNext [] (.inl ⟨c, r⟩) = [] := by
  cases c with
  | rep c =>
    cases c with
    | allocateContainers requests =>
      cases requests with
      | nil => cases r <;> rfl
      | cons request requests => cases h
    | deleteContainer guid => cases r <;> rfl
    | _ => rfl
  | _ => rfl

/-- A step keeps this. Before the listing only the first part has something to say, namely
that whoever is not quiet has found the context unset. At the listing the assumption makes
these quiet as well, and after it the context is set, so nobody becomes loud again. -/
theorem Settled.step {cfg cfg' : Config Call Reply World Role} (h : Settled cfg)
    (hlicensed : Every Licence cfg.world) (hstep : QuietStep cfg cfg') : Settled cfg' := by
  obtain ⟨hstep, hquiescent⟩ := hstep
  cases hstep with
  | env henv =>
    obtain ⟨x, -, -⟩ := henv
    cases x
  | spawn hs => exact hs.elim
  | @act w _ l past c k r ts₁ ts₂ hact =>
    obtain ⟨henabled, rfl⟩ := hact
    have hcaller : (⟨l, past, .call c k⟩ : Thread Call Reply Role) ∈
        ts₁ ++ ⟨l, past, .call c k⟩ :: ts₂ := by simp
    refine ⟨?_, ?_⟩
    · intro th hth
      rcases System.mem_answered ⟨l, past, .call c k⟩ hth with rfl | hth
      · rcases h.admitted _ hcaller with hquiet | hpast
        · rcases refuses_or r with hr | hr
          · exact .inl (hquiet.call hr)
          · exact .inr (List.mem_append_right past (hr ▸ List.mem_singleton.mpr rfl))
        · exact .inr (List.mem_append_left _ hpast)
      · exact h.admitted th hth
    · intro hmem
      -- either the listing was made before, or this is the one
      have hbefore : (∀ th ∈ ts₁ ++ ⟨l, past, .call c k⟩ :: ts₂, Quiet th.rest) ∧
          held w = [] ∧ Refuses c r := by
        rcases List.mem_append.mp hmem with hmem | hmem
        · obtain ⟨hall, hheld⟩ := h.empty hmem
          exact ⟨hall, hheld,
            refuses_of_enabled henabled (evacuating_of_listedEmpty hlicensed hmem)⟩
        · cases List.mem_singleton.mp hmem
          refine ⟨?_, ?_, trivial⟩
          · intro th hth
            rcases h.admitted th hth with hquiet | hpast
            · exact hquiet
            · exact quiet_of_only (hquiescent rfl th hth hpast)
          · exact List.eq_nil_iff_forall_not_mem.mpr fun guid hguid =>
              List.not_mem_nil ((henabled guid).mpr hguid)
      obtain ⟨hall, hheld, hr⟩ := hbefore
      refine ⟨?_, ?_⟩
      · intro th hth
        rcases System.mem_answered ⟨l, past, .call c k⟩ hth with rfl | hth
        · exact (hall _ hcaller).call hr
        · exact hall th hth
      · rw [held_concat, hheld]
        exact holdNext_nil (hall _ hcaller).1 r

/-- Along a whole run it is kept, and the run is one of the system. Everybody is quiet in the
beginning. -/
theorem settled {cell : Cell} {fuel : ℕ} {clients : List Client}
    {cfg : Config Call Reply World Role}
    (h : Relation.ReflTransGen QuietStep (start cell fuel clients) cfg) :
    system.Reachable (start cell fuel clients) cfg ∧ Settled cfg := by
  induction h with
  | refl =>
    refine ⟨.refl, ?_, fun hmem => absurd hmem List.not_mem_nil⟩
    intro th hth
    obtain ⟨role, -, rfl⟩ := List.mem_map.mp hth
    exact .inl (quiet_prog cell fuel role)
  | tail _ hstep ih =>
    obtain ⟨hreach, hsettled⟩ := ih
    exact ⟨hreach.tail hstep.1, hsettled.step (licensed cell fuel clients hreach) hstep⟩

/-- **The end of an evacuation is final in every run in which the listing that ends it
comes after the last allocation of every `Perform` that had found the context unset.** Once
the done channel is closed the executor holds no container, then and ever after. -/
theorem evacuation_is_final (cell : Cell) (fuel : ℕ) (clients : List Client)
    {cfg : Config Call Reply World Role}
    (h : Relation.ReflTransGen QuietStep (start cell fuel clients) cfg) (hdone : Done cfg.world) :
    held cfg.world = [] := by
  obtain ⟨hreach, hsettled⟩ := settled h
  exact (hsettled.empty (listedEmpty_of_done (licensed cell fuel clients hreach) hdone)).2

/-- A run in which no `Perform` finds the context unset is such a run, since there is nothing
to assume about anybody. -/
theorem quietSteps_of_refused {cell : Cell} {fuel : ℕ} {clients : List Client}
    {cfg : Config Call Reply World Role} (h : system.Reachable (start cell fuel clients) cfg)
    (hrefused : .inl ⟨.rep .evacuating, false⟩ ∉ cfg.world) :
    Relation.ReflTransGen QuietStep (start cell fuel clients) cfg := by
  induction h with
  | refl => exact .refl
  | @tail cfg₁ cfg₂ hreach hstep ih =>
    refine (ih fun hmem => hrefused (hstep.mem_world hmem)).tail ⟨hstep, ?_⟩
    intro _ th hth hpast
    obtain ⟨-, hmem⟩ := System.Reachable.on_path hreach th hth
    exact absurd (hstep.mem_world (hmem _ hpast)) hrefused

/-! ### Two runs

In the first one the context is set before `Perform` looks at it. In the second one
`Perform` looks first, and allocates when the evacuator has already declared the
evacuation done. -/

/-- One task to place, with an image the sample cell has. -/
def oneTask : Work := ⟨[], [⟨"task", "domain", ⟨[], [], "preloaded:linux"⟩, ⟨64, 32, 10⟩⟩]⟩

/-- The request made for that task when it is performed. -/
def oneRequest : List AllocationRequest :=
  oneTask.tasks.map fun task => taskRequest task "/data/rootfs/linux"

/-- The clients of both runs: `Perform` and `Evacuate`. -/
def sampleClients : List Client := [.perform oneTask, .evacuate]

/-- Everyone who runs in them, the evacuator and its goroutine included. -/
def sampleRoles : List Role := .run :: .evacuate :: sampleClients.map .client

/-- Who makes which call in the two runs. -/
def sampleOwner : Call → Role
  | .rep .listContainers => .evacuate
  | .rep _ => .client (.perform oneTask)
  | .evacuate => .client .evacuate
  | .beginEvacuate => .evacuate
  | .awaitTimer => .evacuate
  | .closeDone => .evacuate
  | .cut => .evacuate
  | _ => .run

/-- The evacuator's steps from the notice to the end, with an executor that holds nothing. -/
def evacuation : World :=
  [.inl ⟨.closeReady, ()⟩, .inl ⟨.evacuate, ()⟩, .inl ⟨.awaitNotice, .notified⟩,
    .inl ⟨.goEvacuate, ()⟩, .inl ⟨.beginEvacuate, ()⟩, listedEmpty, .inl ⟨.closeDone, ()⟩,
    .inl ⟨.awaitOutcome, .done⟩]

/-- `Perform` looks when the evacuation is over. -/
def lateLook : World := evacuation ++ [.inl ⟨.rep .evacuating, true⟩]

/-- `Perform` looks before the context is set, and allocates after the end. -/
def lateAllocation : World :=
  .inl ⟨.rep .evacuating, false⟩ :: evacuation ++
    [.inl ⟨.rep (.allocateContainers oneRequest), .ok []⟩]

/-- A journal in which all four come to their end is a run, if each entry was permitted where
it stands. -/
theorem reachable_of_paths {w : World} (hw : EveryFrom (Permitted Enabled nofun) [] w)
    (hrun : run.Path (share sampleOwner .run w) (.ret ()))
    (hevacuate : (evacuate 1).Path (share sampleOwner .evacuate w) (.ret ()))
    (hperform : (Client.prog .sample (.perform oneTask)).Path
      (share sampleOwner (.client (.perform oneTask)) w) (.ret ()))
    (hcontext : EvacuationContext.evacuate.Path
      (share sampleOwner (.client .evacuate) w) (.ret ())) :
    ∃ cfg, system.Reachable (start .sample 1 sampleClients) cfg ∧ cfg.world = w := by
  have hnodup : sampleRoles.Nodup := by decide
  have howner : ∀ c, sampleOwner c ∈ sampleRoles := by
    intro c
    unfold sampleOwner
    split <;> simp [sampleRoles, sampleClients]
  refine ⟨_, System.Reachable.replay sampleOwner (prog .sample 1) hnodup hw.every
    (fun e _ => howner e.1) (fun _ => .ret ()) ?_, rfl⟩
  intro role hrole
  simp only [sampleRoles, sampleClients, List.map_cons, List.map_nil, List.mem_cons,
    List.not_mem_nil, or_false] at hrole
  rcases hrole with rfl | rfl | rfl | rfl
  · exact hrun
  · exact hevacuate
  · exact hperform
  · exact hcontext

/-- `Perform` is refused, and the end is final. -/
theorem lateLook_final :
    ∃ cfg, Relation.ReflTransGen QuietStep (start .sample 1 sampleClients) cfg ∧
      cfg.world = lateLook ∧ Done cfg.world ∧ held cfg.world = [] := by
  have hpermitted : EveryFrom (Permitted Enabled nofun) [] lateLook := by
    simp [lateLook, evacuation, EveryFrom, Permitted, Enabled, Evacuating, isEvacuate, held,
      holdNext]
  obtain ⟨cfg, hreach, hworld⟩ := reachable_of_paths hpermitted
    (.call _ <| .call _ <| .call _ <| .call _ <| .nil _) (.call _ <| .call _ <| .call _ <| .nil _)
    (.call _ <| .nil _) (.call _ <| .nil _)
  have hquiet := quietSteps_of_refused hreach (by rw [hworld]; simp [lateLook, evacuation])
  have hdone : Done cfg.world := by
    rw [hworld]
    simp [Done, lateLook, evacuation]
  exact ⟨cfg, hquiet, hworld, hdone, evacuation_is_final .sample 1 sampleClients hquiet hdone⟩

/-- `Perform` has looked in time: the evacuation is done, and there is a container all the
same. The run is not one of `QuietStep`s, because the listing comes before the allocation. -/
theorem lateAllocation_revives :
    ∃ cfg, system.Reachable (start .sample 1 sampleClients) cfg ∧ cfg.world = lateAllocation ∧
      Done cfg.world ∧ held cfg.world = ["task"] := by
  have hpermitted : EveryFrom (Permitted Enabled nofun) [] lateAllocation := by
    simp [lateAllocation, evacuation, EveryFrom, Permitted, Enabled, Evacuating, isEvacuate, held,
      holdNext]
  obtain ⟨cfg, hreach, hworld⟩ := reachable_of_paths hpermitted
    (.call _ <| .call _ <| .call _ <| .call _ <| .nil _) (.call _ <| .call _ <| .call _ <| .nil _)
    (.call _ <| .call _ <| .nil _) (.call _ <| .nil _)
  refine ⟨cfg, hreach, hworld, ?_, ?_⟩
  · rw [hworld]
    simp [Done, lateAllocation, evacuation]
  · rw [hworld]
    decide

end Evacuator

end CellRep
