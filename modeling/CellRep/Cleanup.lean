import CellRep.Journal
import CellRep.Models

/-!
# Cleaning up after an evacuation

`EvacuationCleanup` is the last member of the rep's process group (`evacuation/cleanup.go`).
When it is signalled it removes what evacuating records the cell left behind and stops all
containers: one goroutine signals them, another one waits until none is running, and
`Run` waits for whichever comes first, the second goroutine or a timer.

The two goroutines and `Run` are three threads here. A goroutine begins when its `go`
statement was executed, a receive from a closed channel is answered when the channel was
closed, and timers and tickers fire whenever they like. Containers change their state at
any time, so every listing is answered with anything.
-/

namespace CellRep

open Models (ActualLRPKey ActualLRPInstanceKey ActualLRPGroup)
open Executor (Container)

namespace Cleanup

/-! ## Calls

The two goroutines and `Run` have their own calls each, so that the journal shows who did
what; `owner` says so formally. Sending on and closing of channels are calls as well. -/

/-- The threads: `Run` itself, and the two goroutines it starts one after the other. -/
inductive Goroutine : Type where
  | run : Goroutine
  /-- `signalRunningContainers` -/
  | signal : Goroutine
  /-- `checkRunningContainers` -/
  | check : Goroutine
  deriving DecidableEq

/-- The last select of `Run`: the timer, or the channel the checking goroutine closes. -/
inductive Outcome : Type where
  | exitTimer : Outcome
  | stopped : Outcome
  deriving DecidableEq

/-- The calls of the cleanup. A listing says who asks for it. -/
inductive Call : Type where
  -- `Run`
  | closeReady
  | awaitSignal
  | actualLRPGroups (cellID : String)
  | removeEvacuatingActualLRP (key : ActualLRPKey) (instanceKey : ActualLRPInstanceKey)
  | sendMetric (name : String) (value : ℕ)
  | goSignal
  | goCheck
  | awaitOutcome
  /-- `Run` returns -/
  | exit (err : Option Err)
  -- `signalRunningContainers`
  | beginSignal
  | listToSignal
  | stopContainer (guid : String)
  | closeSignalled
  -- `checkRunningContainers`
  | beginCheck
  | awaitSignalled
  | listToCheck
  | tick
  | closeStopped
  /-- a loop is cut off -/
  | cut
  deriving DecidableEq

/-- What each call is answered with. A cut has no answer. -/
@[reducible] def Reply : Call → Type
  | .actualLRPGroups _ => Except Err (List ActualLRPGroup)
  | .removeEvacuatingActualLRP _ _ => Option Err
  | .sendMetric _ _ => Option Err
  | .awaitOutcome => Outcome
  | .listToSignal => Except Err (List Container)
  | .stopContainer _ => Option Err
  | .listToCheck => Except Err (List Container)
  | .cut => Empty
  | _ => Unit

/-- The programs of the cleanup, over the calls of its three threads. -/
abbrev CleanupM : Type → Type := Prog Call Reply

@[simp] def closeReady : CleanupM Unit := Prog.call .closeReady Prog.ret

@[simp] def awaitSignal : CleanupM Unit := Prog.call .awaitSignal Prog.ret

@[simp] def actualLRPGroups (cellID : String) : CleanupM (Except Err (List ActualLRPGroup)) :=
  Prog.call (.actualLRPGroups cellID) Prog.ret

@[simp] def removeEvacuatingActualLRP (key : ActualLRPKey) (instanceKey : ActualLRPInstanceKey) :
    CleanupM (Option Err) :=
  Prog.call (.removeEvacuatingActualLRP key instanceKey) Prog.ret

@[simp] def sendMetric (name : String) (value : ℕ) : CleanupM (Option Err) :=
  Prog.call (.sendMetric name value) Prog.ret

@[simp] def goSignal : CleanupM Unit := Prog.call .goSignal Prog.ret

@[simp] def goCheck : CleanupM Unit := Prog.call .goCheck Prog.ret

@[simp] def awaitOutcome : CleanupM Outcome := Prog.call .awaitOutcome Prog.ret

@[simp] def exit (err : Option Err) : CleanupM Unit := Prog.call (.exit err) Prog.ret

@[simp] def beginSignal : CleanupM Unit := Prog.call .beginSignal Prog.ret

@[simp] def listToSignal : CleanupM (Except Err (List Container)) :=
  Prog.call .listToSignal Prog.ret

@[simp] def stopContainer (guid : String) : CleanupM (Option Err) :=
  Prog.call (.stopContainer guid) Prog.ret

@[simp] def closeSignalled : CleanupM Unit := Prog.call .closeSignalled Prog.ret

@[simp] def beginCheck : CleanupM Unit := Prog.call .beginCheck Prog.ret

@[simp] def awaitSignalled : CleanupM Unit := Prog.call .awaitSignalled Prog.ret

@[simp] def listToCheck : CleanupM (Except Err (List Container)) :=
  Prog.call .listToCheck Prog.ret

@[simp] def tick : CleanupM Unit := Prog.call .tick Prog.ret

@[simp] def closeStopped : CleanupM Unit := Prog.call .closeStopped Prog.ret

/-- Nothing comes after a cut: only the checking goroutine has a loop without a bound of its
own. -/
@[simp] def cut {α : Type} : CleanupM α := Prog.call .cut nofun

/-! ## The cleanup's code

One definition for each function, and one for the body of each loop. -/

/-- `strandedEvacuatingActualLRPs`, the name of the metric. -/
def strandedEvacuatingActualLRPs : String := "StrandedEvacuatingActualLRPs"

/-- The error of a cleanup that took too long. -/
def errFailedToCleanup : Err := .text "failed-to-cleanup-all-containers"

/-- The loop of `Run` over the groups; returns the count. A removal that fails is counted all
the same. -/
def removeStranded (strandedEvacuationCount : ℕ) : List ActualLRPGroup → CleanupM ℕ
  | [] => return strandedEvacuationCount
  | group :: groups => do
    match group.evacuating with
    | none => removeStranded strandedEvacuationCount groups
    | some actualLRP =>
      let _ ← removeEvacuatingActualLRP actualLRP.key actualLRP.instanceKey
      removeStranded (strandedEvacuationCount + 1) groups

/-- `EvacuationCleanup.Run`: the one way to return early is an error of the fetch, after which
no goroutine is started. -/
def run (cellID : String) : CleanupM (Option Err) := do
  closeReady
  awaitSignal
  match ← actualLRPGroups cellID with
  | .error err => return some err
  | .ok groups =>
    let strandedEvacuationCount ← removeStranded 0 groups
    let _ ← sendMetric strandedEvacuatingActualLRPs strandedEvacuationCount
    goSignal
    goCheck
    match ← awaitOutcome with
    | .exitTimer => return some errFailedToCleanup
    | .stopped => return none

/-- The loop of `signalRunningContainers`; the answers are not looked at. -/
def stopContainers : List Container → CleanupM Unit
  | [] => return ()
  | container :: containers => do
    let _ ← stopContainer container.guid
    stopContainers containers

/-- `signalRunningContainers`. It lists all containers, whatever their state, and the channel
is closed also when the listing fails. -/
def signalRunningContainers : CleanupM Unit := do
  beginSignal
  match ← listToSignal with
  | .error _ => closeSignalled
  | .ok containers =>
    stopContainers containers
    closeSignalled

/-- Whether a listing shows a running container. If the containers cannot be listed the source
assumes that none is running. -/
def anyRunning : Except Err (List Container) → Bool
  | .error _ => false
  | .ok containers => containers.any fun container => container.state = .running

/-- No running container is seen exactly if the listing failed or none of its containers is in
the state running. -/
theorem anyRunning_eq_false {reply : Except Err (List Container)} : anyRunning reply = false ↔
    ∀ containers, reply = .ok containers → ∀ container ∈ containers,
      container.state ≠ .running := by
  cases reply with
  | error err => simp [anyRunning]
  | ok containers => simp [anyRunning]

/-- `hasRunningContainers`: one listing, and a look at the states. -/
def hasRunningContainers : CleanupM Bool := do
  return anyRunning (← listToCheck)

/-- One round of `checkRunningContainers`: a listing, and a tick if something is still
running. -/
def checkRound (_ : Unit) : CleanupM (Unit ⊕ Unit) := do
  if ← hasRunningContainers then
    tick
    return .inl ()
  else return .inr ()

/-- `checkRunningContainers`: it begins to list only when the other goroutine is done. -/
def checkRunningContainers (fuel : ℕ) : CleanupM Unit := do
  beginCheck
  awaitSignalled
  Prog.loop cut checkRound fuel ()
  closeStopped

/-- What each thread runs. `Run` reports its result, so that the journal shows it. -/
def prog (cellID : String) (fuel : ℕ) : Goroutine → CleanupM Unit
  | .run => do
    let err ← run cellID
    exit err
  | .signal => signalRunningContainers
  | .check => checkRunningContainers fuel

/-! ## The world

Nothing happens but calls, since what containers do is hidden in the answers to the listings.
The order of the calls is what the enabling conditions are about. -/

/-- What happened so far: nothing happens but calls. -/
abbrev World : Type := Journal Call Reply Empty

/-- An entry of the journal, which is always an answered call. -/
abbrev Entry : Type := Event Call Reply ⊕ Empty

/-- Which reply can be given when: a goroutine begins after its `go` statement, and a receive
from a channel that is only ever closed is answered after it was closed. -/
def Enabled (w : World) : (c : Call) → Reply c → Prop
  | .beginSignal, _ => .inl ⟨.goSignal, ()⟩ ∈ w
  | .beginCheck, _ => .inl ⟨.goCheck, ()⟩ ∈ w
  | .awaitSignalled, _ => .inl ⟨.closeSignalled, ()⟩ ∈ w
  | .awaitOutcome, .stopped => .inl ⟨.closeStopped, ()⟩ ∈ w
  | _, _ => True

/-- The cleanup and its world: the journal of what has happened so far. -/
def system : System Call Reply World Goroutine := System.journal Goroutine Enabled nofun

/-- The cleanup before its first step: all three threads are there, two of them not begun. -/
def start (cellID : String) (fuel : ℕ) : Config Call Reply World Goroutine :=
  ⟨[], [.run, .signal, .check].map fun g => ⟨g, [], prog cellID fuel g⟩⟩

/-- The thread a call belongs to. -/
def owner : Call → Goroutine
  | .beginSignal => .signal
  | .listToSignal => .signal
  | .stopContainer _ => .signal
  | .closeSignalled => .signal
  | .beginCheck => .check
  | .awaitSignalled => .check
  | .listToCheck => .check
  | .tick => .check
  | .closeStopped => .check
  | .cut => .check
  | _ => .run

/-- The keys of a record, which are all that a removal is told. -/
abbrev Keys : Type := ActualLRPKey × ActualLRPInstanceKey

/-- What has to be removed: the groups with an evacuating part, each with its own keys. -/
def stranded (groups : List ActualLRPGroup) : List Keys :=
  groups.filterMap fun group => group.evacuating.map fun lrp => (lrp.key, lrp.instanceKey)

/-- The removals of a journal, in order. -/
def removals (w : World) : List Keys :=
  w.filterMap fun
    | .inl ⟨.removeEvacuatingActualLRP key instanceKey, _⟩ => some (key, instanceKey)
    | _ => none

/-- The metrics of a journal, in order. -/
def metrics (w : World) : List (String × ℕ) :=
  w.filterMap fun
    | .inl ⟨.sendMetric name value, _⟩ => some (name, value)
    | _ => none

/-! ## The protocol

The phases of the three threads, and what each of them may call there. A phase carries what a
thread has still to do or has already done, so that the calls it allows can be exact. -/

/-- Where a thread is. The phases of all three are one type, because the contract of a pool
has one type of ghost states. -/
inductive Phase : Type where
  /-- `Run` has not fetched the groups yet -/
  | waiting : Phase
  /-- `Run` has fetched the groups and removed some of what is stranded -/
  | removing : List ActualLRPGroup → List Keys → Phase
  /-- `Run` has sent the metric -/
  | stopping : Phase
  /-- `Run` has its result -/
  | returning : Option Err → Phase
  | returned : Phase
  /-- the signalling goroutine has not begun -/
  | signalIdle : Phase
  | signalReady : Phase
  /-- these containers are still to be stopped -/
  | signalling : List Container → Phase
  | signalDone : Phase
  /-- the checking goroutine waits for the signalling one -/
  | checkIdle : Phase
  /-- whether its last listing was free of running containers -/
  | checking : Bool → Phase
  | checkDone : Phase

namespace Phase

/-- The thread a phase belongs to. -/
def owner : Phase → Goroutine
  | .waiting => .run
  | .removing _ _ => .run
  | .stopping => .run
  | .returning _ => .run
  | .returned => .run
  | .signalIdle => .signal
  | .signalReady => .signal
  | .signalling _ => .signal
  | .signalDone => .signal
  | .checkIdle => .check
  | .checking _ => .check
  | .checkDone => .check

/-- The phase a thread begins in. -/
def init : Goroutine → Phase
  | .run => .waiting
  | .signal => .signalIdle
  | .check => .checkIdle

/-- What a phase allows. The two clauses of `Run` with arguments are the ones that matter: a
removal is the next one due, and the metric is the number of them all. -/
inductive Allows : Phase → Call → Prop where
  | closeReady : Allows .waiting .closeReady
  | awaitSignal : Allows .waiting .awaitSignal
  | fetch (cellID : String) : Allows .waiting (.actualLRPGroups cellID)
  | remove {groups : List ActualLRPGroup} {done : List Keys} {key : ActualLRPKey}
      {instanceKey : ActualLRPInstanceKey} :
      done ++ [(key, instanceKey)] <+: stranded groups →
      Allows (.removing groups done) (.removeEvacuatingActualLRP key instanceKey)
  | metric (groups : List ActualLRPGroup) :
      Allows (.removing groups (stranded groups))
        (.sendMetric strandedEvacuatingActualLRPs (stranded groups).length)
  | goSignal : Allows .stopping .goSignal
  | goCheck : Allows .stopping .goCheck
  | awaitOutcome : Allows .stopping .awaitOutcome
  | exit (err : Option Err) : Allows (.returning err) (.exit err)
  | beginSignal : Allows .signalIdle .beginSignal
  | listToSignal : Allows .signalReady .listToSignal
  | stop (container : Container) (containers : List Container) :
      Allows (.signalling (container :: containers)) (.stopContainer container.guid)
  | closeSignalled : Allows (.signalling []) .closeSignalled
  | beginCheck : Allows .checkIdle .beginCheck
  | awaitSignalled : Allows .checkIdle .awaitSignalled
  | listToCheck : Allows (.checking false) .listToCheck
  | tick : Allows (.checking false) .tick
  | closeStopped : Allows (.checking true) .closeStopped
  | cut : Allows (.checking false) .cut

/-- The phase after an answered call. A failed listing leaves nothing to be signalled. -/
def next (g : Phase) : (c : Call) → Reply c → Phase
  | .actualLRPGroups _, .ok groups => .removing groups []
  | .actualLRPGroups _, .error err => .returning (some err)
  | .removeEvacuatingActualLRP key instanceKey, _ =>
    match g with
    | .removing groups done => .removing groups (done ++ [(key, instanceKey)])
    | g => g
  | .sendMetric _ _, _ => .stopping
  | .awaitOutcome, .exitTimer => .returning (some errFailedToCleanup)
  | .awaitOutcome, .stopped => .returning none
  | .exit _, _ => .returned
  | .beginSignal, _ => .signalReady
  | .listToSignal, .ok containers => .signalling containers
  | .listToSignal, .error _ => .signalling []
  | .stopContainer _, _ =>
    match g with
    | .signalling containers => .signalling containers.tail
    | g => g
  | .closeSignalled, _ => .signalDone
  | .awaitSignalled, _ => .checking false
  | .listToCheck, containers => .checking !anyRunning containers
  | .closeStopped, _ => .checkDone
  | _, _ => g

end Phase

/-- The protocol as a ghost specification. Nothing is expected of the replies. -/
def protocol : Spec Call Reply Phase where
  pre := Phase.Allows
  ans _ _ _ := True
  next := Phase.next

/-! ## The threads keep to the protocol

One rule for each function. The loops over lists are by induction on what is left of the list,
and the loop without a bound has an invariant. -/

/-- Every group with an evacuating part is removed in turn, whatever the answers. What is done
and what is still to do make up what is stranded, and the count is the length of the former. -/
theorem wp_removeStranded {groups todo : List ActualLRPGroup} :
    ∀ {done : List Keys}, done ++ stranded todo = stranded groups →
      (removeStranded done.length todo).wp protocol
        (fun g count => g = .removing groups (stranded groups) ∧ count = (stranded groups).length)
        (.removing groups done) := by
  -- by induction on the groups that are left; `done` is what was removed so far, and the phase
  -- carries it
  induction todo with
  | nil =>
    intro done hdone
    have heq : done = stranded groups := by
      rw [← hdone, stranded, List.filterMap_nil, List.append_nil]
    rw [heq]
    exact ⟨rfl, rfl⟩
  | cons group todo ih =>
    intro done hdone
    unfold removeStranded
    cases hgroup : group.evacuating with
    -- a group without an evacuating part is passed over
    | none =>
      refine ih ?_
      rw [← hdone, stranded, stranded, List.filterMap_cons_none (by rw [hgroup]; rfl)]
    | some actualLRP =>
      have hnext : (done ++ [(actualLRP.key, actualLRP.instanceKey)]) ++ stranded todo =
          stranded groups := by
        rw [← hdone, stranded, stranded, List.filterMap_cons_some (by rw [hgroup]; rfl),
          ← List.append_cons]
      refine ⟨.remove ⟨_, hnext⟩, ?_⟩
      intro err _
      have hrest := ih hnext
      rw [List.length_append] at hrest
      exact hrest

/-- `Run` returns what its phase says, on each of its three ways out. -/
theorem wp_run (cellID : String) :
    (run cellID).wp protocol (fun g err => g = .returning err) .waiting := by
  refine ⟨.closeReady, fun _ _ => ⟨.awaitSignal, fun _ _ => ⟨.fetch cellID, ?_⟩⟩⟩
  rintro (err | groups) -
  · rfl
  · refine (Prog.wp_bind (p := removeStranded 0 groups)).mpr
      (Prog.wp_mono ?_ (@wp_removeStranded groups groups [] rfl))
    rintro _ _ ⟨rfl, rfl⟩
    refine ⟨.metric groups, fun _ _ => ⟨.goSignal, fun _ _ => ⟨.goCheck, fun _ _ =>
      ⟨.awaitOutcome, ?_⟩⟩⟩⟩
    rintro (_ | _) -
    · rfl
    · rfl

/-- The containers are stopped in turn, each once. -/
theorem wp_stopContainers (containers : List Container) :
    (stopContainers containers).wp protocol (fun g _ => g = .signalling [])
      (.signalling containers) := by
  induction containers with
  | nil => rfl
  | cons container containers ih => exact ⟨.stop container containers, fun _ _ => ih⟩

/-- The signalling goroutine closes its channel when nothing is left to be stopped. -/
theorem wp_signalRunningContainers :
    signalRunningContainers.wp protocol (fun _ _ => True) .signalIdle := by
  refine ⟨.beginSignal, fun _ _ => ⟨.listToSignal, ?_⟩⟩
  rintro (err | containers) -
  · exact ⟨.closeSignalled, fun _ _ => trivial⟩
  · refine (Prog.wp_bind (p := stopContainers containers)).mpr
      (Prog.wp_mono ?_ (wp_stopContainers containers))
    rintro _ _ rfl
    exact ⟨.closeSignalled, fun _ _ => trivial⟩

/-- The loop ends with a listing without running containers; after any other listing it goes
on. -/
theorem wp_checkLoop (fuel : ℕ) :
    (Prog.loop cut checkRound fuel ()).wp protocol (fun g _ => g = .checking true)
      (.checking false) := by
  refine Prog.wp_loop (fun _ g => g = .checking false) ?_ ?_ fuel rfl
  · rintro _ _ rfl
    exact ⟨.cut, nofun⟩
  · rintro _ _ rfl
    refine ⟨.listToCheck, ?_⟩
    intro containers _
    refine (Prog.wp_bind (p := .ret (anyRunning containers))).mpr ?_
    change Prog.wp protocol _ _ (.checking !anyRunning containers)
    cases anyRunning containers with
    | true => exact ⟨.tick, fun _ _ => rfl⟩
    | false => rfl

/-- The checking goroutine closes its channel only after such a listing. -/
theorem wp_checkRunningContainers (fuel : ℕ) :
    (checkRunningContainers fuel).wp protocol (fun _ _ => True) .checkIdle := by
  refine ⟨.beginCheck, fun _ _ => ⟨.awaitSignalled, fun _ _ => ?_⟩⟩
  refine (Prog.wp_bind (p := Prog.loop cut checkRound fuel ())).mpr
    (Prog.wp_mono ?_ (wp_checkLoop fuel))
  rintro _ _ rfl
  exact ⟨.closeStopped, fun _ _ => trivial⟩

/-- **Every thread keeps to the protocol.** -/
theorem wp_prog (cellID : String) (fuel : ℕ) (g : Goroutine) :
    (prog cellID fuel g).wp protocol (fun _ _ => True) (.init g) := by
  cases g with
  | run =>
    refine Prog.wp_bind.mpr (Prog.wp_mono ?_ (wp_run cellID))
    rintro _ err rfl
    exact ⟨.exit err, fun _ _ => trivial⟩
  | signal => exact wp_signalRunningContainers
  | check => exact wp_checkRunningContainers fuel

/-! ## What the journal says about it

The ghost states are tied to the journal. A licence says what has to stand in the journal
before an entry; the results are chains of such licences, followed backwards. -/

/-- The groups were fetched, with this answer. -/
def Fetched (w : World) (reply : Except Err (List ActualLRPGroup)) : Prop :=
  ∃ cellID, .inl ⟨.actualLRPGroups cellID, reply⟩ ∈ w

/-- The groups are fetched; there is to be one such entry at most. -/
def isFetch : Entry → Bool
  | .inl ⟨.actualLRPGroups _, _⟩ => true
  | _ => false

/-- The signalling goroutine lists the containers. -/
def isListToSignal : Entry → Bool
  | .inl ⟨.listToSignal, _⟩ => true
  | _ => false

/-- The checking goroutine lists the containers, which it may do again and again. -/
def isListToCheck : Entry → Bool
  | .inl ⟨.listToCheck, _⟩ => true
  | _ => false

/-- The containers were listed, and all but those in `todo` were told to stop. -/
def Signalled (w : World) (todo : List Container) : Prop :=
  ∃ listed, .inl ⟨.listToSignal, listed⟩ ∈ w ∧ ∀ containers, listed = .ok containers →
    ∀ container ∈ containers, container ∈ todo ∨
      ∃ err, .inl ⟨.stopContainer container.guid, err⟩ ∈ w

/-- The last listing of the checking goroutine had no running container. -/
def Clear (w : World) : Prop :=
  ∃ a containers b, w = a ++ .inl ⟨.listToCheck, containers⟩ :: b ∧
    anyRunning containers = false ∧ b.any isListToCheck = false

/-- What `Run` may return: the error of the fetch; or, the metric being sent, an error of
its own, or nil after the checking goroutine is done. -/
def MayReturn (w : World) (err : Option Err) : Prop :=
  (∃ e, Fetched w (.error e) ∧ err = some e) ∨
    ((∃ groups, Fetched w (.ok groups)) ∧ metrics w ≠ [] ∧
      (err = none → .inl ⟨.awaitOutcome, .stopped⟩ ∈ w))

/-- What a phase says about the journal. The phases of `Run` count removals and metrics, those
of the others remember what they have listed. -/
def Holds (w : World) : Phase → Prop
  | .waiting => w.any isFetch = false ∧ removals w = [] ∧ metrics w = []
  | .removing groups done => Fetched w (.ok groups) ∧ removals w = done ∧ metrics w = []
  | .stopping => (∃ groups, Fetched w (.ok groups)) ∧ metrics w ≠ []
  | .returning err => MayReturn w err
  | .returned => ∃ err, .inl ⟨.exit err, ()⟩ ∈ w
  | .signalIdle => w.any isListToSignal = false
  | .signalReady => .inl ⟨.goSignal, ()⟩ ∈ w ∧ w.any isListToSignal = false
  | .signalling todo => .inl ⟨.goSignal, ()⟩ ∈ w ∧ Signalled w todo
  | .signalDone => True
  | .checkIdle => .inl ⟨.closeStopped, ()⟩ ∉ w
  | .checking clear => .inl ⟨.closeStopped, ()⟩ ∉ w ∧ .inl ⟨.awaitSignalled, ()⟩ ∈ w ∧
    (clear = true → Clear w)
  | .checkDone => True

/-- The licences of the entries that need one. Each is a statement about the journal before
the entry. -/
def Licence (w : World) : Entry → Prop
  | .inl ⟨.actualLRPGroups _, _⟩ => w.any isFetch = false
  | .inl ⟨.goSignal, _⟩ => ∃ groups, Fetched w (.ok groups)
  | .inl ⟨.awaitOutcome, .stopped⟩ => .inl ⟨.closeStopped, ()⟩ ∈ w
  | .inl ⟨.exit err, _⟩ => MayReturn w err
  | .inl ⟨.listToSignal, _⟩ => w.any isListToSignal = false
  | .inl ⟨.stopContainer _, _⟩ => .inl ⟨.goSignal, ()⟩ ∈ w
  | .inl ⟨.closeSignalled, _⟩ => Signalled w []
  | .inl ⟨.awaitSignalled, _⟩ => .inl ⟨.closeSignalled, ()⟩ ∈ w
  | .inl ⟨.listToCheck, _⟩ => .inl ⟨.closeStopped, ()⟩ ∉ w ∧ .inl ⟨.awaitSignalled, ()⟩ ∈ w
  | .inl ⟨.closeStopped, _⟩ => Clear w
  | _ => True

/-- Removals so far are the first ones of what is stranded, and when the metric was sent
they are all of it. -/
def Removed (w : World) : Prop :=
  ∀ groups, Fetched w (.ok groups) → removals w <+: stranded groups ∧
    (metrics w ≠ [] → removals w = stranded groups ∧
      metrics w = [(strandedEvacuatingActualLRPs, (stranded groups).length)])

/-- The invariant of the journal: every entry had its licence, and the count is right. -/
structure Sound (w : World) : Prop where
  licensed : Every Licence w
  removed : Removed w

/-! ### Other threads' calls

What a phase of one thread stands for survives every call of the other two. This is the
interference check, and it is made once for each thing that a phase stands for. The small
lemmas come first: removals and metrics are counted entry by entry, only `Run` fetches,
removes and measures, and what stands in the journal is not taken back by what is added. -/

section

variable {w : World} {c : Call} {r : Reply c}

theorem removals_append (a b : World) : removals (a ++ b) = removals a ++ removals b :=
  List.filterMap_append

theorem metrics_append (a b : World) : metrics (a ++ b) = metrics a ++ metrics b :=
  List.filterMap_append

theorem removals_concat {x : Entry} (hx : removals [x] = []) :
    removals (w ++ [x]) = removals w := by
  rw [removals_append, hx, List.append_nil]

theorem metrics_concat {x : Entry} (hx : metrics [x] = []) : metrics (w ++ [x]) = metrics w := by
  rw [metrics_append, hx, List.append_nil]

theorem removals_other (hc : owner c ≠ .run) : removals [.inl ⟨c, r⟩] = [] := by
  cases c <;> first | rfl | exact absurd rfl hc

theorem metrics_other (hc : owner c ≠ .run) : metrics [.inl ⟨c, r⟩] = [] := by
  cases c <;> first | rfl | exact absurd rfl hc

theorem isFetch_other (hc : owner c ≠ .run) : isFetch (.inl ⟨c, r⟩) = false := by
  cases c <;> first | rfl | exact absurd rfl hc

theorem isListToSignal_other (hc : owner c ≠ .signal) : isListToSignal (.inl ⟨c, r⟩) = false := by
  cases c <;> first | rfl | exact absurd rfl hc

theorem isListToCheck_other (hc : owner c ≠ .check) : isListToCheck (.inl ⟨c, r⟩) = false := by
  cases c <;> first | rfl | exact absurd rfl hc

/-- Only the checking goroutine closes the channel `Run` waits for. -/
theorem closeStopped_other (hc : owner c ≠ .check) (hw : .inl ⟨.closeStopped, ()⟩ ∉ w) :
    .inl ⟨.closeStopped, ()⟩ ∉ w ++ [.inl ⟨c, r⟩] := by
  intro hmem
  rcases List.mem_append.mp hmem with hmem | hmem
  · exact hw hmem
  · cases List.mem_singleton.mp hmem
    exact hc rfl

theorem Fetched.append {reply : Except Err (List ActualLRPGroup)} (h : Fetched w reply)
    (l : World) : Fetched (w ++ l) reply :=
  let ⟨cellID, hmem⟩ := h
  ⟨cellID, List.mem_append_left l hmem⟩

theorem Signalled.append {todo : List Container} (h : Signalled w todo) (l : World) :
    Signalled (w ++ l) todo := by
  obtain ⟨listed, hmem, hall⟩ := h
  refine ⟨listed, List.mem_append_left l hmem, ?_⟩
  intro containers hlisted container hcontainer
  rcases hall containers hlisted container hcontainer with htodo | ⟨err, hstop⟩
  · exact .inl htodo
  · exact .inr ⟨err, List.mem_append_left l hstop⟩

/-- A stop of the next container leaves one container less to be stopped. -/
theorem Signalled.stop {container : Container} {todo : List Container}
    (h : Signalled w (container :: todo)) (r : Option Err) :
    Signalled (w ++ [.inl ⟨.stopContainer container.guid, r⟩]) todo := by
  obtain ⟨listed, hmem, hall⟩ := h
  refine ⟨listed, List.mem_append_left _ hmem, ?_⟩
  intro containers hlisted other hother
  rcases hall containers hlisted other hother with htodo | ⟨err, hstop⟩
  · rcases List.mem_cons.mp htodo with rfl | htodo
    · exact .inr ⟨r, List.mem_append_right w (List.mem_singleton.mpr rfl)⟩
    · exact .inl htodo
  · exact .inr ⟨err, List.mem_append_left _ hstop⟩

/-- Before the groups are fetched nothing is to be seen of `Run`. -/
theorem Holds.waiting_concat {x : Entry} (h : Holds w .waiting) (hfetch : isFetch x = false)
    (hremoval : removals [x] = []) (hmetric : metrics [x] = []) : Holds (w ++ [x]) .waiting := by
  obtain ⟨hnone, hremovals, hmetrics⟩ := h
  refine ⟨by simp [hnone, hfetch], ?_, ?_⟩
  · rw [removals_concat hremoval, hremovals]
  · rw [metrics_concat hmetric, hmetrics]

theorem Holds.stopping_append (h : Holds w .stopping) (l : World) : Holds (w ++ l) .stopping := by
  obtain ⟨⟨groups, hfetched⟩, hmetrics⟩ := h
  refine ⟨⟨groups, hfetched.append l⟩, ?_⟩
  rw [metrics_append]
  exact List.append_ne_nil_of_left_ne_nil hmetrics _

/-- What `Run` may return it may return later, too. -/
theorem MayReturn.append {err : Option Err} (h : MayReturn w err) (l : World) :
    MayReturn (w ++ l) err := by
  rcases h with ⟨e, hfetched, rfl⟩ | ⟨hfetched, hmetrics, hstopped⟩
  · exact .inl ⟨e, hfetched.append l, rfl⟩
  · obtain ⟨hfetched', hmetrics'⟩ := Holds.stopping_append ⟨hfetched, hmetrics⟩ l
    exact .inr ⟨hfetched', hmetrics', fun herr => List.mem_append_left l (hstopped herr)⟩

/-- The last listing stays the last until there is another. -/
theorem Clear.concat (h : Clear w) (hc : isListToCheck (.inl ⟨c, r⟩) = false) :
    Clear (w ++ [.inl ⟨c, r⟩]) := by
  obtain ⟨a, containers, b, rfl, hrunning, hb⟩ := h
  exact ⟨a, containers, b ++ [.inl ⟨c, r⟩], by simp, hrunning, by simp [hb, hc]⟩

/-- What a phase says survives the calls of the other threads: nobody makes the calls it
counts but its own thread. -/
theorem Holds.frame {g : Phase} (h : Holds w g) (hc : owner c ≠ g.owner) :
    Holds (w ++ [.inl ⟨c, r⟩]) g := by
  -- one case for each phase; what it stands for never depends on another thread's calls
  cases g with
  | waiting => exact h.waiting_concat (isFetch_other hc) (removals_other hc) (metrics_other hc)
  | removing groups done =>
    obtain ⟨hfetched, hremovals, hmetrics⟩ := h
    refine ⟨hfetched.append _, ?_, ?_⟩
    · rw [removals_concat (removals_other hc), hremovals]
    · rw [metrics_concat (metrics_other hc), hmetrics]
  | stopping => exact h.stopping_append _
  | returning err => exact h.append _
  | returned =>
    obtain ⟨err, hmem⟩ := h
    exact ⟨err, List.mem_append_left _ hmem⟩
  | signalIdle =>
    have hnone : w.any isListToSignal = false := h
    rw [Holds, List.any_append, hnone]
    simp [isListToSignal_other hc]
  | signalReady => exact ⟨List.mem_append_left _ h.1, by simp [h.2, isListToSignal_other hc]⟩
  | signalling todo => exact ⟨List.mem_append_left _ h.1, h.2.append _⟩
  | signalDone => trivial
  | checkIdle => exact closeStopped_other hc h
  | checking clear =>
    exact ⟨closeStopped_other hc h.1, List.mem_append_left _ h.2.1,
      fun hclear => (h.2.2 hclear).concat (isListToCheck_other hc)⟩
  | checkDone => trivial

end

/-! ### A thread's own calls

Each allowed call is licensed by what the journal holds, and brings about what the next phase
stands for. -/

/-- A phase allows only calls of its own thread. -/
theorem Phase.Allows.owner_eq {g : Phase} {c : Call} (h : g.Allows c) :
    Cleanup.owner c = g.owner := by
  cases h <;> rfl

/-- A phase is followed by phases of the same thread only. -/
theorem Phase.Allows.owner_next {g : Phase} {c : Call} (h : g.Allows c) (r : Reply c) :
    (g.next c r).owner = g.owner := by
  cases h with
  | fetch cellID => cases r <;> rfl
  | awaitOutcome => cases r <;> rfl
  | listToSignal => cases r <;> rfl
  | _ => rfl

/-- What the next phase says, for each call that the phase allows. -/
theorem Holds.next {w : World} {g : Phase} {c : Call} {r : Reply c} (h : Holds w g)
    (hallows : g.Allows c) (henabled : Enabled w c r) :
    Holds (w ++ [.inl ⟨c, r⟩]) (g.next c r) := by
  have hlast : (.inl ⟨c, r⟩ : Entry) ∈ w ++ [.inl ⟨c, r⟩] :=
    List.mem_append_right w (List.mem_singleton.mpr rfl)
  -- by the calls the protocol allows, thread by thread
  cases hallows with
  | closeReady => exact h.waiting_concat rfl rfl rfl
  | awaitSignal => exact h.waiting_concat rfl rfl rfl
  | fetch cellID =>
    obtain ⟨-, hremovals, hmetrics⟩ := h
    cases r with
    | error err => exact .inl ⟨err, ⟨cellID, hlast⟩, rfl⟩
    | ok groups =>
      refine ⟨⟨cellID, hlast⟩, ?_, ?_⟩
      · rw [removals_concat rfl, hremovals]
      · rw [metrics_concat rfl, hmetrics]
  | remove _ =>
    obtain ⟨hfetched, hremovals, hmetrics⟩ := h
    refine ⟨hfetched.append _, ?_, ?_⟩
    · rw [removals_append, hremovals]
      rfl
    · rw [metrics_concat rfl, hmetrics]
  | metric groups =>
    refine ⟨⟨groups, h.1.append _⟩, ?_⟩
    rw [metrics_append]
    exact List.append_ne_nil_of_right_ne_nil _ (List.cons_ne_nil _ _)
  | goSignal => exact h.stopping_append _
  | goCheck => exact h.stopping_append _
  | awaitOutcome =>
    obtain ⟨hfetched, hmetrics⟩ := h.stopping_append [.inl ⟨.awaitOutcome, r⟩]
    cases r with
    | exitTimer => exact .inr ⟨hfetched, hmetrics, nofun⟩
    | stopped => exact .inr ⟨hfetched, hmetrics, fun _ => hlast⟩
  | exit err => exact ⟨err, hlast⟩
  | beginSignal =>
    have hnone : w.any isListToSignal = false := h
    exact ⟨List.mem_append_left _ henabled, by simp [hnone, isListToSignal]⟩
  | listToSignal =>
    cases r with
    | error err => exact ⟨List.mem_append_left _ h.1, _, hlast, nofun⟩
    | ok containers =>
      refine ⟨List.mem_append_left _ h.1, _, hlast, ?_⟩
      rintro _ ⟨⟩ container hcontainer
      exact .inl hcontainer
  | stop container containers => exact ⟨List.mem_append_left _ h.1, h.2.stop r⟩
  | closeSignalled => trivial
  | beginCheck =>
    have hnone : .inl ⟨.closeStopped, ()⟩ ∉ w := h
    change .inl ⟨.closeStopped, ()⟩ ∉ w ++ [.inl ⟨.beginCheck, r⟩]
    simp [hnone]
  | awaitSignalled =>
    have hnone : .inl ⟨.closeStopped, ()⟩ ∉ w := h
    exact ⟨by simp [hnone], hlast, nofun⟩
  -- the listing is the last one now, so the phase knows it
  | listToCheck =>
    refine ⟨by simp [h.1], List.mem_append_left _ h.2.1, ?_⟩
    intro hclear
    exact ⟨w, r, [], rfl, by simpa using hclear, rfl⟩
  | tick => exact ⟨by simp [h.1], List.mem_append_left _ h.2.1, nofun⟩
  | closeStopped => trivial
  | cut => cases r

/-! ### The journal is sound

From one step to whole runs: every entry of a reachable journal was licensed when it was
added, and some entries can therefore occur only once. -/

section

variable {w : World}

/-- Entries that are no fetch leave what was fetched as it is. -/
theorem fetched_concat {x : Entry} (hx : isFetch x = false)
    {reply : Except Err (List ActualLRPGroup)} (h : Fetched (w ++ [x]) reply) :
    Fetched w reply := by
  obtain ⟨cellID, hmem⟩ := h
  rcases List.mem_append.mp hmem with hmem | hmem
  · exact ⟨cellID, hmem⟩
  · rw [← List.mem_singleton.mp hmem] at hx
    cases hx

/-- A fetch is licensed only if there was none. -/
theorem Licence.fetch_once {x : Entry} (h : Licence w x) (hx : isFetch x = true) :
    w.any isFetch = false := by
  rcases x with ⟨c, r⟩ | x
  · cases c with
    | actualLRPGroups cellID => exact h
    | _ => cases hx
  · cases x

/-- The listing of the signalling goroutine is licensed once only. -/
theorem Licence.listToSignal_once {x : Entry} (h : Licence w x) (hx : isListToSignal x = true) :
    w.any isListToSignal = false := by
  rcases x with ⟨c, r⟩ | x
  · cases c with
    | listToSignal => exact h
    | _ => cases hx
  · cases x

/-- The groups are fetched once, so it is determined what is stranded. -/
theorem fetched_unique (h : Every Licence w) {r₁ r₂ : Except Err (List ActualLRPGroup)}
    (h₁ : Fetched w r₁) (h₂ : Fetched w r₂) : r₁ = r₂ := by
  obtain ⟨_, h₁⟩ := h₁
  obtain ⟨_, h₂⟩ := h₂
  cases h.unique Licence.fetch_once h₁ h₂ rfl rfl
  rfl

/-- The signalling goroutine lists the containers once, as it has no loop around it. -/
theorem listToSignal_unique (h : Every Licence w) {r₁ r₂ : Except Err (List Container)}
    (h₁ : .inl ⟨.listToSignal, r₁⟩ ∈ w) (h₂ : .inl ⟨.listToSignal, r₂⟩ ∈ w) : r₁ = r₂ := by
  cases h.unique Licence.listToSignal_once h₁ h₂ rfl rfl
  rfl

/-- Entries that neither fetch, remove nor measure leave the count alone. -/
theorem Removed.concat {x : Entry} (h : Removed w) (hfetch : isFetch x = false)
    (hremoval : removals [x] = []) (hmetric : metrics [x] = []) : Removed (w ++ [x]) := by
  intro groups hfetched
  rw [removals_concat hremoval, metrics_concat hmetric]
  exact h groups (fetched_concat hfetch hfetched)

/-- The count goes on with each of `Run`'s calls. The groups in question are those of the
phase, because there was one fetch. -/
theorem Removed.next {g : Phase} {c : Call} {r : Reply c} (h : Removed w) (hw : Every Licence w)
    (hholds : Holds w g) (hallows : g.Allows c) : Removed (w ++ [.inl ⟨c, r⟩]) := by
  cases hallows with
  | fetch cellID =>
    obtain ⟨hnone, hremovals, hmetrics⟩ := hholds
    intro groups _
    rw [removals_concat rfl, hremovals, metrics_concat rfl, hmetrics]
    exact ⟨List.nil_prefix, fun hne => absurd rfl hne⟩
  | @remove groups done key instanceKey hstarts =>
    obtain ⟨hfetched, hremovals, hmetrics⟩ := hholds
    intro groups' hfetched'
    cases fetched_unique hw hfetched (fetched_concat rfl hfetched')
    rw [removals_append, hremovals, metrics_concat rfl, hmetrics]
    exact ⟨hstarts, fun hne => absurd rfl hne⟩
  | metric groups =>
    obtain ⟨hfetched, hremovals, hmetrics⟩ := hholds
    intro groups' hfetched'
    cases fetched_unique hw hfetched (fetched_concat rfl hfetched')
    rw [removals_concat rfl, hremovals, metrics_append, hmetrics]
    exact ⟨List.prefix_refl _, fun _ => ⟨rfl, rfl⟩⟩
  | _ => exact h.concat rfl rfl rfl

/-- The protocol licenses what is written down. -/
theorem Sound.next {g : Phase} {c : Call} {r : Reply c} (h : Sound w) (hholds : Holds w g)
    (hallows : g.Allows c) (henabled : Enabled w c r) : Sound (w ++ [.inl ⟨c, r⟩]) := by
  refine ⟨every_concat.mpr ⟨h.licensed, ?_⟩, h.removed.next h.licensed hholds hallows⟩
  cases hallows with
  | fetch cellID => exact hholds.1
  | goSignal => exact hholds.1
  | awaitOutcome =>
    cases r with
    | exitTimer => trivial
    | stopped => exact henabled
  | exit err => exact hholds
  | listToSignal => exact hholds.2
  | stop container containers => exact hholds.1
  | closeSignalled => exact hholds.2
  | awaitSignalled => exact henabled
  | listToCheck => exact ⟨hholds.1, hholds.2.1⟩
  | closeStopped => exact hholds.2.2 rfl
  | _ => trivial

end

/-- The contract among the three threads: each one owns its own calls, and any two have
different owners. -/
def contract : Contract system Phase where
  spec := protocol
  init := Phase.init
  inv := Sound
  holds := Holds
  compat g g' := g.owner ≠ g'.owner
  compat_symm h := h.symm
  env_ok := by
    rintro w _ _ ⟨x, -, -⟩
    cases x
  spawn_ok _ h := h.elim
  act_ok := by
    rintro w g c r _ hsound hholds hallows ⟨henabled, rfl⟩
    refine ⟨trivial, hsound.next hholds hallows henabled, hholds.next hallows henabled, ?_⟩
    intro g' hg' hne
    refine ⟨hg'.frame fun heq => hne (hallows.owner_eq.symm.trans heq), ?_⟩
    exact fun heq => hne ((hallows.owner_next r).symm.trans heq)

/-- Every reachable configuration of the cleanup keeps the contract. -/
theorem meets (cellID : String) (fuel : ℕ) {cfg : Config Call Reply World Goroutine}
    (h : system.Reachable (start cellID fuel) cfg) : contract.Meets cfg := by
  refine Contract.Meets.run ⟨⟨every_nil, ?_⟩, ?_, ?_⟩ h
  · rintro groups ⟨_, hmem⟩
    cases hmem
  · intro th hth
    obtain ⟨g, -, rfl⟩ := List.mem_map.mp hth
    refine ⟨?_, wp_prog cellID fuel g⟩
    cases g with
    | run => exact ⟨rfl, rfl, rfl⟩
    | signal => exact rfl
    | check => exact List.not_mem_nil
  · simp [start, contract, Contract.ghost, Phase.init, Phase.owner]

/-! ## What the cleanup guarantees

The facts about journals that the last theorems are put together from. None of them looks at
the programs any more. -/

section

variable {w : World}

/-- If the groups cannot be fetched no container is stopped: a stop comes after the `go`
statement, and that comes after a fetch that succeeded. -/
theorem stop_of_fetched_error (h : Every Licence w) {err : Err} (hfetched : Fetched w (.error err))
    (guid : String) (r : Option Err) : .inl ⟨.stopContainer guid, r⟩ ∉ w := by
  intro hstop
  obtain ⟨l₁, l₂, rfl, hgo⟩ := h.of_mem hstop
  obtain ⟨l₃, l₄, rfl, groups, hgroups⟩ := h.left.of_mem hgo
  have hgroups' : Fetched ((l₃ ++ .inl ⟨.goSignal, ()⟩ :: l₄) ++
      .inl ⟨.stopContainer guid, r⟩ :: l₂) (.ok groups) := (hgroups.append _).append _
  cases fetched_unique h hfetched hgroups'

/-- What `Run` returned was allowed, by now. -/
theorem mayReturn_of_exit (h : Every Licence w) {err : Option Err}
    (hexit : .inl ⟨.exit err, ()⟩ ∈ w) : MayReturn w err := by
  obtain ⟨l₁, l₂, rfl, hmay⟩ := h.of_mem hexit
  exact MayReturn.append hmay _

/-- After a failed fetch `Run` may return nothing but its error. -/
theorem eq_of_mayReturn (h : Every Licence w) {err : Err} (hfetched : Fetched w (.error err))
    {err' : Option Err} (hmay : MayReturn w err') : err' = some err := by
  rcases hmay with ⟨e, herror, rfl⟩ | ⟨⟨groups, hgroups⟩, -⟩
  · cases fetched_unique h hfetched herror
    rfl
  · cases fetched_unique h hfetched hgroups

/-- After a failed fetch the next call of `Run` returns the error. In every other phase there
would have been a fetch that succeeded, or none at all. -/
theorem eq_exit_of_allows (h : Every Licence w) {err : Err} (hfetched : Fetched w (.error err))
    {g : Phase} (hholds : Holds w g) {c : Call} (hallows : g.Allows c) (hc : owner c = .run) :
    c = .exit (some err) := by
  have hnone : ∀ groups, ¬ Fetched w (.ok groups) := fun groups hgroups => by
    cases fetched_unique h hfetched hgroups
  have hwaiting : w.any isFetch ≠ false := by
    obtain ⟨cellID, hmem⟩ := hfetched
    exact fun hany => List.any_eq_false.mp hany _ hmem rfl
  cases hallows with
  | closeReady => exact absurd hholds.1 hwaiting
  | awaitSignal => exact absurd hholds.1 hwaiting
  | fetch cellID => exact absurd hholds.1 hwaiting
  | remove _ => exact absurd hholds.1 (hnone _)
  | metric groups => exact absurd hholds.1 (hnone _)
  | goSignal => exact absurd hholds.1.choose_spec (hnone _)
  | goCheck => exact absurd hholds.1.choose_spec (hnone _)
  | awaitOutcome => exact absurd hholds.1.choose_spec (hnone _)
  | exit err' => rw [eq_of_mayReturn h hfetched hholds]
  | _ => cases hc

/-- The final listing: everything was told to stop before the checking goroutine so much
as asked, and nothing was running then. -/
theorem final_listing (h : Every Licence w) (hclosed : .inl ⟨.closeStopped, ()⟩ ∈ w) :
    ∃ l₁ l₂ containers l₃,
      w = l₁ ++ .inl ⟨.awaitSignalled, ()⟩ :: (l₂ ++ .inl ⟨.listToCheck, containers⟩ :: l₃) ∧
        Signalled l₁ [] ∧ anyRunning containers = false ∧ l₃.any isListToCheck = false := by
  obtain ⟨l, l', rfl, a, containers, b, rfl, hrunning, hb⟩ := h.of_mem hclosed
  -- back from the channel to the listing, to the other channel, to the stops
  obtain ⟨-, hawait⟩ := h.left a _ b rfl
  obtain ⟨l₁, l₂, rfl, hsignalled⟩ := h.left.left.of_mem hawait
  have hstops : Signalled l₁ [] := by
    obtain ⟨m, m', rfl, hstops⟩ := h.left.left.left.of_mem hsignalled
    exact Signalled.append hstops _
  refine ⟨l₁, l₂, containers, b ++ .inl ⟨.closeStopped, ()⟩ :: l', ?_, hstops, hrunning, ?_⟩
  · simp
  · rw [List.any_append, hb, List.any_cons]
    refine List.any_eq_false.mpr ?_
    intro x hx hlist
    obtain ⟨n, n', rfl⟩ := List.append_of_mem hx
    have hlicence := h (((l₁ ++ .inl ⟨.awaitSignalled, ()⟩ :: l₂) ++
      .inl ⟨.listToCheck, containers⟩ :: b) ++ .inl ⟨.closeStopped, ()⟩ :: n) x n' (by simp)
    -- a later listing would come after the channel was closed
    rcases x with ⟨c, r⟩ | x
    · cases c with
      | listToCheck => exact hlicence.1 (by simp)
      | _ => cases hlist
    · cases x

end

/-- `Run` makes its own calls only, so that what is allowed to `Run` is all there is to
consider. -/
theorem only_run (cellID : String) (fuel : ℕ) :
    (prog cellID fuel .run).Only fun c => owner c = .run := by
  have hremove : ∀ groups count, (removeStranded count groups).Only fun c => owner c = .run := by
    intro groups
    induction groups with
    | nil => exact fun _ => trivial
    | cons group groups ih =>
      intro count
      unfold removeStranded
      cases group.evacuating with
      | none => exact ih count
      | some actualLRP => exact ⟨rfl, fun _ => ih (count + 1)⟩
  refine Prog.Only.bind ?_ fun err => ⟨rfl, fun _ => trivial⟩
  refine ⟨rfl, fun _ => ⟨rfl, fun _ => ⟨rfl, ?_⟩⟩⟩
  rintro (err | groups)
  · trivial
  · refine Prog.Only.bind (p := removeStranded 0 groups) (hremove groups 0) ?_
    refine fun count => ⟨rfl, fun _ => ⟨rfl, fun _ => ⟨rfl, fun _ => ⟨rfl, ?_⟩⟩⟩⟩
    rintro (_ | _)
    · trivial
    · trivial

/-- A `Run` that is over has reported its result. -/
theorem exists_exit {cellID : String} {fuel : ℕ} {t : List (Event Call Reply)} {u : Unit}
    (h : (prog cellID fuel .run).Trace t u) : ∃ err, ⟨.exit err, ()⟩ ∈ t := by
  obtain ⟨t₁, t₂, err, rfl, -, h₂⟩ := Prog.trace_bind.mp h
  obtain ⟨_, t₃, rfl, -⟩ := Prog.trace_call.mp h₂
  exact ⟨err, List.mem_append_right t₁ (List.mem_cons_self ..)⟩

/-- After a failed fetch `Run` has returned the error or is about to. -/
theorem returns_of_fetched_error (cellID : String) (fuel : ℕ)
    {cfg : Config Call Reply World Goroutine} (h : system.Reachable (start cellID fuel) cfg)
    {err : Err} (hfetched : Fetched cfg.world (.error err)) {th : Thread Call Reply Goroutine}
    (hth : th ∈ cfg.threads) (hlabel : th.label = .run) :
    .inl ⟨.exit (some err), ()⟩ ∈ cfg.world ∨ ∃ k, th.rest = .call (.exit (some err)) k := by
  have hm := meets cellID fuel h
  have hlicensed : Every Licence cfg.world := hm.inv.licensed
  obtain ⟨hpath, hpast⟩ := System.Reachable.on_path h th hth
  rw [hlabel] at hpath
  cases hrest : th.rest with
  | ret u =>
    rw [hrest] at hpath
    obtain ⟨err', hexit⟩ := exists_exit hpath.trace
    have hreported := hpast _ hexit
    cases eq_of_mayReturn hlicensed hfetched (mayReturn_of_exit hlicensed hreported)
    exact .inl hreported
  | call c k =>
    have honly := (only_run cellID fuel).of_path hpath
    rw [hrest] at honly
    cases eq_exit_of_allows hlicensed hfetched (hm.keeps th hth).1 (hm.licensed hth hrest) honly.1
    exact .inr ⟨k, rfl⟩

/-- **The cleanup reports success only after everything was signalled and seen stopped.**
In every run, whatever is answered and however the three threads interleave:

* if fetching the groups fails, no container is stopped, and the error is what `Run`
  returns;
* otherwise what is stranded is removed in order, each record once and with its own keys,
  and when the metric was sent, as it was when `Run` returned, that was all of it and the
  metric is the number;
* if `Run` returned nil, the signalling goroutine's listing failed or every container of
  it was told to stop, before the checking goroutine had its go-ahead for the listings,
  and the last of these failed or had no container in the state running. -/
theorem cleanup_succeeds_when_all_stopped (cellID : String) (fuel : ℕ)
    {cfg : Config Call Reply World Goroutine} (h : system.Reachable (start cellID fuel) cfg) :
    (∀ err, .inl ⟨.actualLRPGroups cellID, .error err⟩ ∈ cfg.world →
      (∀ guid r, .inl ⟨.stopContainer guid, r⟩ ∉ cfg.world) ∧
      (∀ err', .inl ⟨.exit err', ()⟩ ∈ cfg.world → err' = some err) ∧
      ∀ th ∈ cfg.threads, th.label = .run →
        .inl ⟨.exit (some err), ()⟩ ∈ cfg.world ∨ ∃ k, th.rest = .call (.exit (some err)) k) ∧
    (∀ groups, .inl ⟨.actualLRPGroups cellID, .ok groups⟩ ∈ cfg.world →
      removals cfg.world <+: stranded groups ∧
      (metrics cfg.world ≠ [] → removals cfg.world = stranded groups ∧
        metrics cfg.world = [(strandedEvacuatingActualLRPs, (stranded groups).length)]) ∧
      ∀ err, .inl ⟨.exit err, ()⟩ ∈ cfg.world → metrics cfg.world ≠ []) ∧
    (.inl ⟨.exit none, ()⟩ ∈ cfg.world → ∃ l₁ l₂ containers l₃ listed,
      cfg.world =
          l₁ ++ .inl ⟨.awaitSignalled, ()⟩ :: (l₂ ++ .inl ⟨.listToCheck, containers⟩ :: l₃) ∧
        (∀ seen, containers = .ok seen → ∀ container ∈ seen, container.state ≠ .running) ∧
        (∀ reply, .inl ⟨.listToCheck, reply⟩ ∉ l₃) ∧
        .inl ⟨.listToSignal, listed⟩ ∈ l₁ ∧
        (∀ listed', .inl ⟨.listToSignal, listed'⟩ ∈ cfg.world → listed' = listed) ∧
        ∀ signalled, listed = .ok signalled → ∀ container ∈ signalled,
          ∃ err, .inl ⟨.stopContainer container.guid, err⟩ ∈ l₁) := by
  obtain ⟨hlicensed, hremoved⟩ := (meets cellID fuel h).inv
  refine ⟨?_, ?_, ?_⟩
  · -- the groups could not be fetched
    intro err hmem
    have hfetched : Fetched cfg.world (.error err) := ⟨cellID, hmem⟩
    refine ⟨stop_of_fetched_error hlicensed hfetched, ?_, ?_⟩
    · exact fun err' hexit =>
        eq_of_mayReturn hlicensed hfetched (mayReturn_of_exit hlicensed hexit)
    · exact fun th hth hlabel => returns_of_fetched_error cellID fuel h hfetched hth hlabel
  · -- they were fetched: removals and metric
    intro groups hmem
    obtain ⟨hstarts, hall⟩ := hremoved groups ⟨cellID, hmem⟩
    refine ⟨hstarts, hall, ?_⟩
    intro err hexit
    rcases mayReturn_of_exit hlicensed hexit with ⟨e, herror, -⟩ | ⟨-, hmetrics, -⟩
    · cases fetched_unique hlicensed ⟨cellID, hmem⟩ herror
    · exact hmetrics
  · -- a return without an error, traced back to the last listing and from there to the stops
    intro hexit
    rcases mayReturn_of_exit hlicensed hexit with ⟨e, -, hnone⟩ | ⟨-, -, hstopped⟩
    · cases hnone
    · obtain ⟨m, m', hw, hclosed⟩ := hlicensed.of_mem (hstopped rfl)
      obtain ⟨l₁, l₂, containers, l₃, hworld, ⟨listed, hlisted, hstops⟩, hrunning, hlast⟩ :=
        final_listing hlicensed (hw ▸ List.mem_append_left _ hclosed)
      refine ⟨l₁, l₂, containers, l₃, listed, hworld, anyRunning_eq_false.mp hrunning, ?_, hlisted,
        ?_, ?_⟩
      · exact fun reply hmem => List.any_eq_false.mp hlast _ hmem rfl
      · intro listed' hlisted'
        refine listToSignal_unique hlicensed hlisted' ?_
        rw [hworld]
        exact List.mem_append_left _ hlisted
      · intro signalled hok container hcontainer
        exact (hstops signalled hok container hcontainer).resolve_left List.not_mem_nil

/-- A group with an evacuating part. -/
def sampleGroup : ActualLRPGroup :=
  ⟨none, some ⟨⟨"process", 0, "domain"⟩, ⟨"instance", "cell"⟩⟩⟩

/-- A container that is running. -/
def runningContainer : Container :=
  ⟨"container", ⟨0, 0, 0, ""⟩, none, .running, [], "", "", ⟨false, "", false⟩⟩

/-- The removal fails, the container is still running when first looked at, and gone the
second time. -/
def sampleJournal : World :=
  [.inl ⟨.closeReady, ()⟩, .inl ⟨.awaitSignal, ()⟩,
    .inl ⟨.actualLRPGroups "cell", .ok [sampleGroup]⟩,
    .inl ⟨.removeEvacuatingActualLRP ⟨"process", 0, "domain"⟩ ⟨"instance", "cell"⟩,
      some (.text "gone")⟩,
    .inl ⟨.sendMetric strandedEvacuatingActualLRPs 1, none⟩, .inl ⟨.goSignal, ()⟩,
    .inl ⟨.goCheck, ()⟩, .inl ⟨.beginCheck, ()⟩, .inl ⟨.beginSignal, ()⟩,
    .inl ⟨.listToSignal, .ok [runningContainer]⟩, .inl ⟨.stopContainer "container", none⟩,
    .inl ⟨.closeSignalled, ()⟩, .inl ⟨.awaitSignalled, ()⟩,
    .inl ⟨.listToCheck, .ok [runningContainer]⟩, .inl ⟨.tick, ()⟩, .inl ⟨.listToCheck, .ok []⟩,
    .inl ⟨.closeStopped, ()⟩, .inl ⟨.awaitOutcome, .stopped⟩, .inl ⟨.exit none, ()⟩]

theorem sampleJournal_reachable :
    system.Reachable (start "cell" 2) ⟨sampleJournal, [.run, .signal, .check].map fun g =>
      ⟨g, share owner g sampleJournal, .ret ()⟩⟩ := by
  refine System.Reachable.replay owner (prog "cell" 2) (by decide) ?_ ?_ (fun _ => .ret ()) ?_
  · refine EveryFrom.every ?_
    simp [sampleJournal, EveryFrom, Permitted, Enabled]
  · intro e _
    cases owner e.1 <;> simp
  · intro g _
    cases g with
    | run =>
      exact .call _ <| .call _ <| .call _ <| .call _ <| .call _ <| .call _ <| .call _ <| .call _ <|
        .call _ <| .nil _
    | signal => exact .call _ <| .call _ <| .call _ <| .call _ <| .nil _
    | check => exact .call _ <| .call _ <| .call _ <| .call _ <| .call _ <| .call _ <| .nil _

theorem sampleJournal_succeeds :
    ∃ cfg, system.Reachable (start "cell" 2) cfg ∧ .inl ⟨.exit none, ()⟩ ∈ cfg.world ∧
      removals cfg.world = stranded [sampleGroup] ∧
      metrics cfg.world = [(strandedEvacuatingActualLRPs, 1)] ∧
      ∃ l₁ l₂ containers l₃, cfg.world =
          l₁ ++ .inl ⟨.awaitSignalled, ()⟩ :: (l₂ ++ .inl ⟨.listToCheck, containers⟩ :: l₃) ∧
        ∀ seen, containers = .ok seen → ∀ container ∈ seen, container.state ≠ .running := by
  obtain ⟨-, hremoved, hreturned⟩ :=
    cleanup_succeeds_when_all_stopped "cell" 2 sampleJournal_reachable
  have hexit : .inl ⟨.exit none, ()⟩ ∈ sampleJournal := by simp [sampleJournal]
  obtain ⟨-, hall, hmetric⟩ := hremoved [sampleGroup] (by simp [sampleJournal])
  obtain ⟨hremovals, hmetrics⟩ := hall (hmetric none hexit)
  obtain ⟨l₁, l₂, containers, l₃, listed, hworld, hrunning, -⟩ := hreturned hexit
  exact ⟨_, sampleJournal_reachable, hexit, hremovals, hmetrics, l₁, l₂, containers, l₃, hworld,
    hrunning⟩

end Cleanup

end CellRep
