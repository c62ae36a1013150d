import CellRep.Batch
import CellRep.Handlers
import CellRep.Pool
import CellRep.TaskStart
import Mathlib.Data.Set.Insert

/-!
# The end of a task

A task's container that has completed is to be reported to the BBS and then deleted. If
it is deleted before the BBS has taken the report, the next sync finds a running task
without a container, and the task is failed for having lost it.

The code can do that: `processCompletedContainer` deletes the container whatever
`CompleteTask` and `FailTask` were answered, and the last section shows such a run. It
does not as long as replies are `Dependable` and the executor keeps what it refused to run
from completing (`KeepsRefused`), and that is an invariant of every run: a container that
has completed is there until its task is closed.
-/

namespace CellRep

open Executor (Container)

/-! ## Tasks and their containers

The world is that of tasks alone: a cell with LRPs on it has two worlds side by side, which
share no guids. Three of its fields are history rather than state, namely which containers
ever completed, which tasks were cancelled and which were refused. -/

/-- What the BBS holds of a task, as far as this cell is concerned. -/
inductive Phase : Type where
  /-- not started -/
  | pending : Phase
  /-- running on this cell -/
  | running : Phase
  /-- completed, failed, or given to another cell -/
  | settled : Phase
  deriving DecidableEq

/-- The executor, the BBS's tasks, and the queue. -/
structure TaskWorld where
  /-- the containers the executor holds -/
  containers : Containers
  /-- the guids whose container has completed, deleted ones included -/
  completed : Set String
  /-- the tasks that were cancelled -/
  cancelled : Set String
  /-- the tasks whose start or run was refused -/
  refused : Set String
  /-- what the BBS holds of each task -/
  phase : String → Phase
  /-- the operations that were queued -/
  queued : Set Operation

/-- The error is one of the two with which the BBS refuses to start a task, and after which
the processor deletes the container. Other errors leave the container for the next attempt. -/
def StartRefused (C : Cell) : Option Err → Prop
  | none => False
  | some err => C.ext.convertError err = .invalidStateTransition ∨
      C.ext.convertError err = .resourceNotFound

/-- A task's container, under its guid: tasks and their containers share guids. -/
def IsTaskContainer (guid : String) (container : Container) : Prop :=
  container.guid = guid ∧ container.tags.get lifecycleTag = taskLifecycle

/-- How the BBS answers the end of a task, by a completion or a failure: accepted, the
task is settled, and otherwise nothing changes. -/
def EndAnswer (guid : String) (w : TaskWorld) (r : Option Err) (w' : TaskWorld) : Prop :=
  match r with
  | none => w' = { w with phase := Function.update w.phase guid .settled }
  | some _ => w' = w

/-- How the world answers. `GetContainer` fails only for an absent container, a task
fetched by its guid has that guid, and only started tasks are listed for the cell. A
start may move a pending task to running or leave it, whatever is answered: the reply may
be lost, and nothing is inferred from it. -/
def taskAnswer (C : Cell) (w : TaskWorld) (c : Call) (r : Reply c) (w' : TaskWorld) : Prop :=
  match c, r with
  | .getContainer guid, .ok container => w' = w ∧ w.containers guid = some container
  | .getContainer guid, .error _ => w' = w ∧ w.containers guid = none
  | .listContainers, .ok cs =>
    w' = w ∧ ∀ container ∈ cs, w.containers container.guid = some container
  | .tasksByCellID _, .ok ts => w' = w ∧ ∀ task ∈ ts, w.phase task.taskGuid ≠ .pending
  | .taskByGuid guid, .ok task => w' = w ∧ task.taskGuid = guid
  | .startTask guid _, (_, err) =>
    ∃ p, (p = w.phase guid ∨ w.phase guid = .pending ∧ p = .running) ∧
      w' = { w with
        phase := Function.update w.phase guid p
        refused := w.refused ∪ {guid' | guid' = guid ∧ StartRefused C err} }
  | .completeTask guid _ _ _ _, r => EndAnswer guid w r w'
  | .failTask guid _, r => EndAnswer guid w r w'
  | .runContainer req, some _ => w' = { w with refused := insert req.guid w.refused }
  | .deleteContainer guid, none =>
    w' = { w with containers := Function.update w.containers guid none }
  | .deleteContainer guid, some _ =>
    w' = w ∨ w' = { w with containers := Function.update w.containers guid none }
  | .push op, _ => w' = { w with queued := insert op w.queued }
  | _, _ => w' = w

/-- What happens without the rep. Containers are placed for pending tasks, change state
and vanish, but one that has completed stays as it is; tasks are settled or cancelled
by others. -/
structure TaskDrifts (w w' : TaskWorld) : Prop where
  refused : w'.refused = w.refused
  queued : w'.queued = w.queued
  cancelled : w.cancelled ⊆ w'.cancelled
  phase : ∀ guid, w'.phase guid = w.phase guid ∨ w'.phase guid = .settled
  /-- a completed container is left alone -/
  final : ∀ guid ∈ w.completed, guid ∈ w'.completed ∧ w'.containers guid = w.containers guid
  /-- to complete is to reach the completed state -/
  completes : ∀ guid, guid ∉ w.completed → (guid ∈ w'.completed ↔
    ∃ container, w'.containers guid = some container ∧ container.state = .completed)
  /-- a container is changed in place, or placed -/
  containers : ∀ guid container', w'.containers guid = some container' →
    IsTaskContainer guid container' ∧ (w.containers guid ≠ none ∨ w.phase guid = .pending)

/-- What the rep runs: the entry points that can end a task or delete its container. -/
inductive TaskJob : Type where
  /-- a bulk sync -/
  | sync : Schedule → TaskJob
  /-- an operation -/
  | operation : Operation → TaskJob
  /-- a request to cancel a task -/
  | cancel : String → TaskJob

/-- Syncs and container operations may be started at any time, a residual operation
after a sync has queued it, and a cancellation for a task that is cancelled. -/
def taskSystem (C : Cell) : System Call Reply TaskWorld TaskJob where
  act := taskAnswer C
  env := TaskDrifts
  spawn w job p :=
    match job with
    | .sync s => p = sync C s
    | .operation op => p = op.execute C ∧ (op.isResidual = true → op ∈ w.queued)
    | .cancel guid => p = (do let _ ← Handlers.cancelTask guid; return) ∧ guid ∈ w.cancelled

/-- A state to start from: any task containers, any tasks, nothing queued or refused. The
containers may well have completed before the rep came up. -/
structure TaskWorld.Fresh (w : TaskWorld) : Prop where
  containers : ∀ guid container, w.containers guid = some container →
    IsTaskContainer guid container
  completed : ∀ guid, guid ∈ w.completed ↔
    ∃ container, w.containers guid = some container ∧ container.state = .completed
  refused : w.refused = ∅
  queued : w.queued = ∅

/-! ## Losing a container

What is to be shown, and under which assumptions. The assumptions restrict single replies and
single steps of the executor, each in terms of the world at that moment. -/

/-- The task is settled or was cancelled. In either case nobody waits for its result any more. -/
def TaskWorld.Closed (w : TaskWorld) (guid : String) : Prop :=
  w.phase guid = .settled ∨ guid ∈ w.cancelled

/-- A finished task has not lost its container: one that has completed is there until
its task is closed, and nobody is about to report it missing while the BBS holds the
task as running. -/
structure NeverLost (cfg : Config Call Reply TaskWorld TaskJob) : Prop where
  kept : ∀ guid ∈ cfg.world.completed, ¬ cfg.world.Closed guid →
    cfg.world.containers guid ≠ none
  unreported : ∀ th ∈ cfg.threads, ∀ guid k,
    th.rest = .call (.failTask guid TaskProcessor.reasonMissingContainer) k →
    guid ∈ cfg.world.completed → guid ∉ cfg.world.cancelled → cfg.world.phase guid ≠ .running

/-- A failure for one of these reasons ends the processing of a completed container; the other
reasons belong to a task that could not be run or has lost its container. -/
def EndReason (reason : String) : Prop :=
  reason = TaskProcessor.reasonFailedToFetchResult ∨ reason = TaskProcessor.reasonInvalidTransition

/-- The reply refuses the start or the run of the task. These are the two refusals after
which the rep deletes the container of a task that it has not reported. -/
def Refuses (C : Cell) (guid : String) (c : Call) (r : Reply c) : Prop :=
  match c, r with
  | .startTask guid' _, (_, err) => guid = guid' ∧ StartRefused C err
  | .runContainer req, some _ => guid = req.guid
  | _, _ => False

/-- The replies under which no container is lost. While a task is open, its completion
is accepted or refused as an invalid transition, and its failure at the end of the
processing is accepted; and its start and its run are not refused once its container has
completed. -/
def Dependable (C : Cell) (w : TaskWorld) (c : Call) (r : Reply c) : Prop :=
  (∀ guid, Refuses C guid c r → guid ∈ w.completed → w.Closed guid) ∧
  match c, r with
  | .completeTask guid _ _ _ _, some err =>
    C.ext.convertError err ≠ .invalidStateTransition → w.Closed guid
  | .failTask guid reason, some _ => EndReason reason → w.Closed guid
  | _, _ => True

/-- What the executor does by itself: a container whose start or run was refused does not
complete while its task is open. -/
def KeepsRefused (w w' : TaskWorld) : Prop :=
  ∀ guid ∈ w.refused, guid ∉ w.completed → guid ∈ w'.completed → w'.Closed guid

/-- The system with such replies and such an executor. -/
abbrev dependableSystem (C : Cell) : System Call Reply TaskWorld TaskJob :=
  ((taskSystem C).calm KeepsRefused).restrict (Dependable C)

/-! ## What the programs know

What a program has found out with its own calls, and what it may do with that. Nothing is
inferred about a task from the success of its start. -/

/-- What a program knows. Each of the four sets is there for one kind of call: the first two
for deletions, the third for queueing and the last for reporting a container missing. -/
structure TaskKnowledge where
  /-- tasks that are settled or were cancelled -/
  closed : Set String
  /-- tasks whose start or run was refused -/
  refused : Set String
  /-- tasks that were started on this cell -/
  started : Set String
  /-- started tasks whose container is absent -/
  gone : Set String

/-- What a program's knowledge says of the world. As with LRPs, absence lasts only because the
task is no longer pending, so that no new container is placed for it. -/
structure TaskKnowledge.Holds (g : TaskKnowledge) (w : TaskWorld) : Prop where
  closed : ∀ guid ∈ g.closed, w.Closed guid
  refused : g.refused ⊆ w.refused
  started : ∀ guid ∈ g.started, w.phase guid ≠ .pending
  gone : ∀ guid ∈ g.gone, w.phase guid ≠ .pending ∧ w.containers guid = none

/-- How a reply adds to what a program knows, where replies are dependable. In particular a
completion that failed with another error than an invalid transition tells that the task is
closed, and a failure at the end tells it whatever the answer was. -/
def TaskKnowledge.learn (C : Cell) (g : TaskKnowledge) (c : Call) (r : Reply c) : TaskKnowledge :=
  match c, r with
  | .getContainer guid, .error _ =>
    { g with gone := g.gone ∪ {guid' | guid' = guid ∧ guid ∈ g.started} }
  | .tasksByCellID _, .ok ts =>
    { g with started := g.started ∪ {guid | ∃ task ∈ ts, task.taskGuid = guid} }
  | .startTask guid _, (_, err) =>
    { g with refused := g.refused ∪ {guid' | guid' = guid ∧ StartRefused C err} }
  | .runContainer req, some _ => { g with refused := insert req.guid g.refused }
  | .completeTask guid _ _ _ _, none => { g with closed := insert guid g.closed }
  | .completeTask guid _ _ _ _, some err =>
    { g with closed := g.closed ∪
        {guid' | guid' = guid ∧ C.ext.convertError err ≠ .invalidStateTransition} }
  | .failTask guid reason, _ =>
    { g with closed := g.closed ∪ {guid' | guid' = guid ∧ EndReason reason} }
  | _, _ => g

/-- The calls a program may make with what it knows: it deletes the container of a task
that is closed or was refused, reports a container missing that is gone, and queues
residual operations of started tasks. -/
def TaskKnowledge.Allows (g : TaskKnowledge) : Call → Prop
  | .deleteContainer guid => guid ∈ g.closed ∨ guid ∈ g.refused
  | .failTask guid reason => reason = TaskProcessor.reasonMissingContainer → guid ∈ g.gone
  | .push op => ∀ guid, op = .residualTask guid → guid ∈ g.started
  | _ => True

/-- The specification of a program, over its knowledge. It relies on being given task
containers under their own guids, and on tasks that have the guid they were fetched by. -/
def taskSpec (C : Cell) : Spec Call Reply TaskKnowledge where
  pre := TaskKnowledge.Allows
  ans _ c r :=
    match c, r with
    | .getContainer guid, .ok container => IsTaskContainer guid container
    | .taskByGuid guid, .ok task => task.taskGuid = guid
    | _, _ => True
  next := TaskKnowledge.learn C

section

variable {C : Cell} {container : Container} {g : TaskKnowledge}

/-- Only the residual operation reports a container missing; for other reasons a task may be
failed at any time. -/
theorem allows_failTask {guid reason : String}
    (h : reason ≠ TaskProcessor.reasonMissingContainer) : g.Allows (.failTask guid reason) :=
  fun heq => absurd heq h

/-- A failure at the end of the processing closes the task, or finds it closed. -/
theorem wp_failTask_end {reason : String} (hend : EndReason reason) :
    (TaskProcessor.failTask container.guid reason).wp (taskSpec C)
      (fun g _ => container.guid ∈ g.closed) g := by
  refine TaskProcessor.wp_failTask.mpr ⟨allows_failTask ?_, fun r _ => ?_⟩
  · rcases hend with rfl | rfl <;> decide
  · exact Set.mem_union_right _ ⟨rfl, hend⟩

/-- Once the report has been made, the task is closed. An invalid transition is followed by a
failure, and that closes it. -/
theorem wp_reportCompletion_end {result : List UInt8} :
    (TaskProcessor.reportCompletion C container result).wp (taskSpec C)
      (fun g _ => container.guid ∈ g.closed) g := by
  refine TaskProcessor.wp_reportCompletion.mpr
    ⟨trivial, fun _ => Set.mem_insert _ _, fun err _ => ?_⟩
  split
  · exact wp_failTask_end (Or.inr rfl)
  · next hne => exact Set.mem_union_right _ ⟨rfl, hne⟩

/-- A task is closed once its result has been fetched and reported, or could not be fetched
and the task was failed for that. -/
theorem wp_completeTask_end : (TaskProcessor.completeTask C container).wp (taskSpec C)
    (fun g _ => container.guid ∈ g.closed) g := by
  refine TaskProcessor.wp_completeTask (fun _ => ⟨trivial, trivial, trivial⟩) ?_ ?_
  · exact fun _ => wp_failTask_end (Or.inl rfl)
  · exact fun _ _ => wp_reportCompletion_end

/-- A completed container: closed first, deleted then. The code does not look at what was
answered in between; that the task is closed follows from the replies being dependable. -/
theorem wp_processCompletedContainer_end :
    (TaskProcessor.processCompletedContainer C container).wp (taskSpec C) (fun _ _ => True) g := by
  refine Prog.wp_bind.mpr (Prog.wp_mono (fun g _ hclosed => ?_) wp_completeTask_end)
  exact Prog.wp_bind.mpr (Delegate.wp_deleteContainer.mpr ⟨Or.inl hclosed, fun _ _ => trivial⟩)

/-- An active container: deleted only after a refusal, of its start or of its run. -/
theorem wp_processActiveContainer_end :
    (TaskProcessor.processActiveContainer C container).wp (taskSpec C) (fun _ _ => True) g := by
  refine TaskProcessor.wp_processActiveContainer (TaskProcessor.wp_startTask.mpr
    ⟨trivial, fun changed _ _ => ⟨trivial, fun task runReq _ _ => ?_⟩, fun changed err _ => ?_⟩)
  · refine Delegate.wp_runContainer.mpr ⟨trivial, fun _ => nofun, fun err _ => ?_⟩
    exact Delegate.wp_deleteContainer.mpr
      ⟨Or.inr (Set.mem_insert _ _), fun _ _ _ => allows_failTask (by decide)⟩
  · split
    · next hrefused =>
      refine Delegate.wp_deleteContainer.mpr ⟨Or.inr ?_, fun _ _ => nofun⟩
      exact Set.mem_union_right _ ⟨rfl, hrefused⟩
    · nofun

/-- The task processor, in all states. -/
theorem wp_process_end :
    (TaskProcessor.process C container).wp (taskSpec C) (fun _ _ => True) g := by
  rcases TaskProcessor.process_cases C container with ⟨-, h⟩ | ⟨-, h⟩ | h
  · rw [h]
    exact wp_processActiveContainer_end
  · rw [h]
    exact wp_processCompletedContainer_end
  · rw [h]
    trivial

/-- A container operation. In this world every container is a task's, so the LRP processors
are not reached. -/
theorem wp_executeContainer_end {guid : String} :
    (executeContainer C guid).wp (taskSpec C) (fun _ _ => True) g := by
  refine Prog.wp_bind.mpr (Delegate.wp_getContainer.mpr ⟨trivial, fun r hr => ?_⟩)
  cases r with
  | error err => trivial
  | ok container =>
    have htask : container.tags.get lifecycleTag = taskLifecycle := hr.2
    dsimp only [Except.toOption]
    rw [htask, if_neg (by decide), if_pos rfl]
    exact wp_process_end

end

/-- What a program knows when it is started: a residual operation that its task was started, a
cancellation that its task is cancelled, and a sync nothing. -/
def TaskJob.knowledge : TaskJob → TaskKnowledge
  | .sync _ => ⟨∅, ∅, ∅, ∅⟩
  | .operation op => ⟨∅, ∅, {guid | op = .residualTask guid}, ∅⟩
  | .cancel guid => ⟨{guid}, ∅, ∅, ∅⟩

/-- An operation; a residual one that finds its container absent knows that it is gone. The
residual operations of LRPs remove records, which are no part of this world. -/
theorem wp_execute_end {C : Cell} (op : Operation) :
    (op.execute C).wp (taskSpec C) (fun _ _ => True) (TaskJob.operation op).knowledge := by
  cases op with
  | container guid => exact wp_executeContainer_end
  | residualInstance =>
    refine Delegate.wp_ifAbsent trivial (fun _ _ => trivial) fun err _ => ?_
    exact ⟨trivial, fun _ _ => trivial⟩
  | residualEvacuating =>
    refine Delegate.wp_ifAbsent trivial (fun _ _ => trivial) fun err _ => ?_
    exact ⟨trivial, fun _ _ => trivial⟩
  | residualJoint =>
    refine Delegate.wp_ifAbsent trivial (fun _ _ => trivial) fun err _ => ?_
    exact ⟨trivial, fun _ _ => ⟨trivial, fun _ _ => trivial⟩⟩
  | residualTask taskGuid =>
    refine Delegate.wp_ifAbsent trivial (fun _ _ => trivial) fun err _ => ?_
    refine ⟨?_, fun _ _ => trivial⟩
    intro _
    exact Set.mem_union_right _ ⟨rfl, rfl⟩

/-- A cancellation deletes the container of a cancelled task. -/
theorem wp_cancelTask {C : Cell} {guid : String} :
    (do let _ ← Handlers.cancelTask guid; return : RepM Unit).wp (taskSpec C) (fun _ _ => True)
      (TaskJob.cancel guid).knowledge :=
  ⟨Or.inl rfl, fun _ _ => trivial⟩

/-- The tasks that were read were started: what the reads of a sync establish. -/
def TasksStarted (g : TaskKnowledge) (found : Found) : Prop :=
  ∀ ts, found.tasks = .ok ts → ∀ task ∈ ts, task.taskGuid ∈ g.started

/-- A bulk sync: the only residual operations that concern tasks are those for tasks it has
read. -/
theorem wp_sync_task {C : Cell} {s : Schedule} {g : TaskKnowledge} :
    (sync C s).wp (taskSpec C) (fun _ _ => True) g := by
  refine wp_sync (I := TasksStarted) ?_ (fun g found r h => ?_)
    fun g cs groups ts guid op hstarted horigin => ⟨fun taskGuid hop => ?_, fun _ => rfl⟩
  · intro ts hts task hmem
    cases hts
    exact absurd hmem List.not_mem_nil
  · cases r with
    | containers => exact ⟨trivial, fun reply _ => h⟩
    | lrps => exact ⟨trivial, fun reply _ => h⟩
    | tasks =>
      refine ⟨trivial, ?_⟩
      intro reply _ ts hts task hmem
      obtain rfl : reply = .ok ts := hts
      exact Set.mem_union_right _ ⟨task, hmem, rfl⟩
  · subst hop
    cases horigin with
    | task _ _ _ htask =>
      obtain ⟨task, hmem, rfl⟩ := htask
      exact hstarted ts rfl task hmem

/-! ## The invariant of every run

As with LRPs, the answered calls are reduced to a few kinds of step, and knowledge is shown to
survive all of them. What is new is that the invariant of the world needs the assumptions on
replies and on the executor. -/

/-- The invariant of the world: what has completed is there until its task is closed, what
was refused has not completed unless its task is closed, and residual operations are queued
only for started tasks. -/
structure TaskWorld.Sound (w : TaskWorld) : Prop where
  containers : ∀ guid container, w.containers guid = some container →
    IsTaskContainer guid container
  kept : ∀ guid ∈ w.completed, ¬ w.Closed guid → w.containers guid ≠ none
  refused : ∀ guid ∈ w.refused, guid ∈ w.completed → w.Closed guid
  queued : ∀ guid, .residualTask guid ∈ w.queued → w.phase guid ≠ .pending

/-- The invariant holds to begin with: what has completed is there. -/
theorem TaskWorld.Fresh.sound {w : TaskWorld} (h : w.Fresh) : w.Sound := by
  refine ⟨h.containers, ?_, ?_, ?_⟩
  · intro guid hmem _
    obtain ⟨container, hfound, -⟩ := (h.completed guid).mp hmem
    rw [hfound]
    exact Option.some_ne_none container
  · intro guid hmem
    rw [h.refused] at hmem
    exact absurd hmem (Set.notMem_empty _)
  · intro guid hmem
    rw [h.queued] at hmem
    exact absurd hmem (Set.notMem_empty _)

/-- What no step undoes: refusals, closed and started tasks, and the absence of a
started task's container. -/
structure TaskEvolves (w w' : TaskWorld) : Prop where
  refused : w.refused ⊆ w'.refused
  closed : ∀ guid, w.Closed guid → w'.Closed guid
  started : ∀ guid, w.phase guid ≠ .pending → w'.phase guid ≠ .pending
  gone : ∀ guid, w.phase guid ≠ .pending → w.containers guid = none → w'.containers guid = none

section

variable {C : Cell} {w w' : TaskWorld} {g : TaskKnowledge} {c : Call} {r : Reply c}

theorem TaskEvolves.refl (w : TaskWorld) : TaskEvolves w w :=
  ⟨subset_rfl, fun _ h => h, fun _ h => h, fun _ _ h => h⟩

/-- **Knowledge lasts**, since all of it is of the kind that no step undoes. -/
theorem TaskKnowledge.Holds.evolve (h : g.Holds w) (he : TaskEvolves w w') : g.Holds w' := by
  refine ⟨fun guid hmem => he.closed guid (h.closed guid hmem), h.refused.trans he.refused,
    fun guid hmem => he.started guid (h.started guid hmem), ?_⟩
  intro guid hmem
  obtain ⟨hstarted, hnone⟩ := h.gone guid hmem
  exact ⟨he.started guid hstarted, he.gone guid hstarted hnone⟩

/-- A task moves forward only, from pending to running and from anywhere to settled. -/
theorem evolves_phase {guid : String} {p : Phase} {refused : Set String}
    (hp : p = w.phase guid ∨ (w.phase guid = .pending ∧ p = .running) ∨ p = .settled)
    (hrefused : w.refused ⊆ refused) :
    TaskEvolves w { w with phase := Function.update w.phase guid p, refused := refused } := by
  refine ⟨hrefused, ?_, ?_, fun guid' _ h => h⟩
  · intro guid' hclosed
    -- closed stays closed: a settled task is only settled again
    rcases hclosed with hsettled | hcancelled
    · apply Or.inl
      by_cases heq : guid' = guid
      · subst heq
        dsimp only
        rw [Function.update_self]
        rcases hp with rfl | ⟨hpending, -⟩ | rfl
        · exact hsettled
        · rw [hpending] at hsettled
          cases hsettled
        · rfl
      · exact (Function.update_of_ne heq ..).trans hsettled
    · exact Or.inr hcancelled
  · intro guid' hstarted
    by_cases heq : guid' = guid
    · subst heq
      dsimp only
      rw [Function.update_self]
      rcases hp with rfl | ⟨-, rfl⟩ | rfl
      · exact hstarted
      · exact Phase.noConfusion
      · exact Phase.noConfusion
    · dsimp only
      rw [Function.update_of_ne heq]
      exact hstarted

/-- Deleting a container is a step tasks may take: a container that was absent stays absent. -/
theorem evolves_delete (w : TaskWorld) (guid : String) :
    TaskEvolves w { w with containers := Function.update w.containers guid none } := by
  refine ⟨subset_rfl, fun _ h => h, fun _ h => h, ?_⟩
  intro guid' _ hnone
  by_cases heq : guid' = guid
  · subst heq
    exact Function.update_self ..
  · exact (Function.update_of_ne heq ..).trans hnone

/-- **What an answered call does** to the world, in three kinds. The calls that only read are
among the first. -/
inductive TaskStep (C : Cell) (w : TaskWorld) : (c : Call) → Reply c → TaskWorld → Prop where
  /-- tasks move forward, refusals are noted, or nothing happens -/
  | moved {c : Call} {r : Reply c} {w' : TaskWorld} : TaskEvolves w w' →
      (∀ guid ∈ w'.refused, guid ∈ w.refused ∨ Refuses C guid c r) →
      w'.containers = w.containers → w'.completed = w.completed → w'.queued = w.queued →
      TaskStep C w c r w'
  /-- a container is deleted -/
  | deleted {guid : String} {r : Option Err} : TaskStep C w (.deleteContainer guid) r
      { w with containers := Function.update w.containers guid none }
  /-- an operation is queued -/
  | pushed {op : Operation} {r : Unit} :
      TaskStep C w (.push op) r { w with queued := insert op w.queued }

/-- The two ways to end a task differ in the call and not in what they do. -/
theorem step_of_endAnswer {guid : String} {reply : Option Err}
    (h : EndAnswer guid w reply w') : TaskStep C w c r w' := by
  cases reply with
  | none =>
    obtain rfl : w' = _ := h
    exact .moved (evolves_phase (Or.inr (Or.inr rfl)) subset_rfl) (fun _ => Or.inl) rfl rfl rfl
  | some err =>
    obtain rfl : w' = w := h
    exact .moved (.refl _) (fun _ => Or.inl) rfl rfl rfl

/-- Every answer is one of these steps. -/
theorem step_of_taskAnswer (hact : taskAnswer C w c r w') : TaskStep C w c r w' := by
  -- calls that only ask leave the world as it is
  have hsame : w' = w → TaskStep C w c r w' := by
    rintro rfl
    exact .moved (.refl _) (fun _ => Or.inl) rfl rfl rfl
  cases c with
  | getContainer guid =>
    cases r with
    | error err => exact hsame hact.1
    | ok container => exact hsame hact.1
  | listContainers =>
    cases r with
    | error err => exact hsame hact
    | ok cs => exact hsame hact.1
  | tasksByCellID cellID =>
    cases r with
    | error err => exact hsame hact
    | ok ts => exact hsame hact.1
  | taskByGuid guid =>
    cases r with
    | error err => exact hsame hact
    | ok task => exact hsame hact.1
  | startTask guid cellID =>
    obtain ⟨changed, err⟩ := r
    obtain ⟨p, hp, rfl⟩ := hact
    refine .moved (evolves_phase ?_ Set.subset_union_left) (fun _ => id) rfl rfl rfl
    rcases hp with hp | hp
    · exact Or.inl hp
    · exact Or.inr (Or.inl hp)
  | completeTask guid => exact step_of_endAnswer hact
  | failTask guid reason => exact step_of_endAnswer hact
  -- a refusal is remembered, a run that was accepted is not part of this world
  | runContainer req =>
    cases r with
    | none => exact hsame hact
    | some err =>
      obtain rfl : w' = _ := hact
      have he : TaskEvolves w { w with refused := insert req.guid w.refused } :=
        ⟨Set.subset_insert _ _, fun _ h => h, fun _ h => h, fun _ _ h => h⟩
      exact .moved he (fun _ => Or.symm) rfl rfl rfl
  | deleteContainer guid =>
    cases r with
    | none =>
      obtain rfl : w' = _ := hact
      exact .deleted
    | some err =>
      rcases hact with hact | rfl
      · exact hsame hact
      · exact .deleted
  | push op =>
    obtain rfl : w' = _ := hact
    exact .pushed
  | _ => exact hsame hact

/-- None of these steps undoes anything. -/
theorem TaskStep.evolves (hstep : TaskStep C w c r w') : TaskEvolves w w' := by
  cases hstep with
  | moved he => exact he
  | deleted => exact evolves_delete w _
  | pushed => exact ⟨subset_rfl, fun _ h => h, fun _ h => h, fun _ _ h => h⟩

/-- Nor does what happens without the rep. A container may be placed for a pending task only,
so one that is gone does not come back. -/
theorem TaskDrifts.evolves (h : TaskDrifts w w') : TaskEvolves w w' := by
  refine ⟨h.refused.symm.subset, ?_, ?_, ?_⟩
  · intro guid hclosed
    rcases hclosed with hsettled | hcancelled
    · rcases h.phase guid with heq | heq
      · exact Or.inl (heq.trans hsettled)
      · exact Or.inl heq
    · exact Or.inr (h.cancelled hcancelled)
  · intro guid hstarted
    rcases h.phase guid with heq | heq
    · rw [heq]
      exact hstarted
    · rw [heq]
      exact Phase.noConfusion
  · intro guid hstarted hnone
    rcases hfound : w'.containers guid with _ | container'
    · rfl
    · rcases (h.containers guid container' hfound).2 with hsome | hpending
      · exact absurd hnone hsome
      · exact absurd hpending hstarted

/-- What goes on without the rep keeps the invariant, where refused containers do not
complete. A container that completes in this very step is there. -/
theorem TaskDrifts.sound (h : TaskDrifts w w') (hkeeps : KeepsRefused w w') (hw : w.Sound) :
    w'.Sound := by
  refine ⟨fun guid container hfound => (h.containers guid container hfound).1, ?_, ?_, ?_⟩
  · intro guid hmem hopen
    by_cases hold : guid ∈ w.completed
    · rw [(h.final guid hold).2]
      exact hw.kept guid hold fun hclosed => hopen (h.evolves.closed guid hclosed)
    · obtain ⟨container, hfound, -⟩ := (h.completes guid hold).mp hmem
      rw [hfound]
      exact Option.some_ne_none container
  · intro guid hrefused hmem
    rw [h.refused] at hrefused
    by_cases hold : guid ∈ w.completed
    · exact h.evolves.closed guid (hw.refused guid hrefused hold)
    · exact hkeeps guid hrefused hold hmem
  · intro guid hmem
    rw [h.queued] at hmem
    exact h.evolves.started guid (hw.queued guid hmem)

/-- A step that leaves containers and the queue alone keeps the invariant, if what it
refuses may be refused. -/
theorem TaskWorld.Sound.evolve (hw : w.Sound) (he : TaskEvolves w w')
    (hrefused : ∀ guid ∈ w'.refused, guid ∈ w.refused ∨ (guid ∈ w.completed → w.Closed guid))
    (hcontainers : w'.containers = w.containers) (hcompleted : w'.completed = w.completed)
    (hqueued : w'.queued = w.queued) : w'.Sound := by
  refine ⟨?_, ?_, ?_, ?_⟩
  · rw [hcontainers]
    exact hw.containers
  · intro guid hmem hopen
    rw [hcompleted] at hmem
    rw [hcontainers]
    exact hw.kept guid hmem fun hclosed => hopen (he.closed guid hclosed)
  · intro guid hmem' hmem
    rw [hcompleted] at hmem
    rcases hrefused guid hmem' with hold | hnew
    · exact he.closed guid (hw.refused guid hold hmem)
    · exact he.closed guid (hnew hmem)
  · intro guid hmem
    rw [hqueued] at hmem
    exact he.started guid (hw.queued guid hmem)

/-- A deletion keeps it where the task is closed or its container has not completed. -/
theorem TaskWorld.Sound.delete {guid : String} (hw : w.Sound)
    (hclosed : guid ∈ w.completed → w.Closed guid) :
    TaskWorld.Sound { w with containers := Function.update w.containers guid none } := by
  refine ⟨?_, ?_, hw.refused, hw.queued⟩
  · intro guid' container hfound
    by_cases heq : guid' = guid
    · subst heq
      cases (Function.update_self ..).symm.trans hfound
    · exact hw.containers guid' container ((Function.update_of_ne heq ..).symm.trans hfound)
  · intro guid' hmem hopen
    have hne : guid' ≠ guid := by
      rintro rfl
      exact hopen (hclosed hmem)
    dsimp only
    rw [Function.update_of_ne hne]
    exact hw.kept guid' hmem hopen

/-- What a program may delete is closed, or has not completed: the two reasons for a deletion,
read against the invariant. -/
theorem closed_of_allows {guid : String} (hw : w.Sound) (hg : g.Holds w)
    (hc : g.Allows (.deleteContainer guid)) (hmem : guid ∈ w.completed) : w.Closed guid := by
  rcases hc with hclosed | hrefused
  · exact hg.closed guid hclosed
  · exact hw.refused guid (hg.refused hrefused) hmem

/-- An answered call keeps the invariant of the world, given what the caller knows. The
assumption on replies enters where a refusal is noted. -/
theorem TaskStep.sound (hstep : TaskStep C w c r w') (hw : w.Sound) (hg : g.Holds w)
    (hc : g.Allows c) (hdep : Dependable C w c r) : w'.Sound := by
  cases hstep with
  | moved he hrefused hcontainers hcompleted hqueued =>
    refine hw.evolve he (fun guid hmem => ?_) hcontainers hcompleted hqueued
    exact (hrefused guid hmem).imp_right (hdep.1 guid)
  | deleted => exact hw.delete (closed_of_allows hw hg hc)
  | pushed =>
    refine ⟨hw.containers, hw.kept, hw.refused, ?_⟩
    rintro guid (hop | hold)
    · exact hg.started guid (hc guid hop.symm)
    · exact hw.queued guid hold

/-- The end of a task, accepted: the task is closed. -/
theorem closed_of_end {guid : String} (h : EndAnswer guid w none w') : w'.Closed guid := by
  obtain rfl : w' = _ := h
  exact Or.inl (Function.update_self ..)

/-- What a program learns from a dependable reply is true. The interesting cases are the two
ends of a task when they are not accepted. -/
theorem learn_holds_task (hg : g.Holds w) (hact : taskAnswer C w c r w')
    (hdep : Dependable C w c r) : (g.learn C c r).Holds w' := by
  -- old knowledge lasts; each case has to justify what is new in it
  have he := (step_of_taskAnswer hact).evolves
  have hkeep := hg.evolve he
  cases c with
  | getContainer guid =>
    cases r with
    | ok container => exact hkeep
    | error err =>
      obtain ⟨rfl, hnone⟩ := hact
      refine ⟨hkeep.closed, hkeep.refused, hkeep.started, ?_⟩
      rintro guid' (hold | ⟨rfl, hstarted⟩)
      · exact hkeep.gone guid' hold
      · exact ⟨hkeep.started guid' hstarted, hnone⟩
  | tasksByCellID cellID =>
    cases r with
    | error err => exact hkeep
    | ok ts =>
      obtain ⟨rfl, hts⟩ := hact
      refine ⟨hkeep.closed, hkeep.refused, ?_, hkeep.gone⟩
      rintro guid (hold | ⟨task, hmem, rfl⟩)
      · exact hkeep.started guid hold
      · exact hts task hmem
  | startTask guid cellID =>
    obtain ⟨changed, err⟩ := r
    obtain ⟨p, -, rfl⟩ := hact
    exact ⟨hkeep.closed, Set.union_subset_union_left _ hg.refused, hkeep.started, hkeep.gone⟩
  | runContainer req =>
    cases r with
    | none => exact hkeep
    | some err =>
      obtain rfl : w' = _ := hact
      exact ⟨hkeep.closed, Set.insert_subset_insert hg.refused, hkeep.started, hkeep.gone⟩
  -- an accepted end closes the task, a refused one finds it closed
  | completeTask guid =>
    cases r with
    | none =>
      refine ⟨?_, hkeep.refused, hkeep.started, hkeep.gone⟩
      rintro guid' (rfl | hold)
      · exact closed_of_end hact
      · exact hkeep.closed guid' hold
    | some err =>
      refine ⟨?_, hkeep.refused, hkeep.started, hkeep.gone⟩
      rintro guid' (hold | ⟨rfl, hother⟩)
      · exact hkeep.closed guid' hold
      · exact he.closed guid' (hdep.2 hother)
  | failTask guid reason =>
    refine ⟨?_, hkeep.refused, hkeep.started, hkeep.gone⟩
    rintro guid' (hold | ⟨rfl, hend⟩)
    · exact hkeep.closed guid' hold
    · cases r with
      | none => exact closed_of_end hact
      | some err => exact he.closed guid' (hdep.2 hend)
  | listContainers | taskByGuid | deleteContainer => cases r <;> exact hkeep
  | _ => exact hkeep

end

/-- The contract of the pool, where replies are dependable. Programs need not keep out of each
other's way here, so any two are compatible. -/
def taskContract (C : Cell) : Contract (dependableSystem C) TaskKnowledge where
  spec := taskSpec C
  init := TaskJob.knowledge
  inv := TaskWorld.Sound
  holds w g := g.Holds w
  compat _ _ := True
  compat_symm h := h
  env_ok := fun hw hdrift =>
    ⟨hdrift.1.sound hdrift.2 hw, fun g hg => hg.evolve hdrift.1.evolves⟩
  spawn_ok := fun {w job p} hw hspawn => by
    cases job with
    | sync s =>
      obtain rfl := hspawn
      exact ⟨wp_sync_task, ⟨by simp [TaskJob.knowledge], by simp [TaskJob.knowledge],
        by simp [TaskJob.knowledge], by simp [TaskJob.knowledge]⟩, fun _ => trivial⟩
    | operation op =>
      obtain ⟨rfl, hqueued⟩ := hspawn
      refine ⟨wp_execute_end op, ⟨by simp [TaskJob.knowledge], by simp [TaskJob.knowledge], ?_,
        by simp [TaskJob.knowledge]⟩, fun _ => trivial⟩
      rintro guid rfl
      exact hw.queued guid (hqueued rfl)
    | cancel guid =>
      obtain ⟨rfl, hcancelled⟩ := hspawn
      refine ⟨wp_cancelTask, ⟨?_, by simp [TaskJob.knowledge], by simp [TaskJob.knowledge],
        by simp [TaskJob.knowledge]⟩, fun _ => trivial⟩
      rintro guid' rfl
      exact Or.inr hcancelled
  act_ok := fun {w g c r w'} hw hg hc hact => by
    obtain ⟨hact, hdep⟩ := hact
    have hstep := step_of_taskAnswer hact
    refine ⟨?_, hstep.sound hw hg hc hdep, learn_holds_task hg hact hdep,
      fun g' hg' _ => ⟨hg'.evolve hstep.evolves, trivial⟩⟩
    cases c with
    | getContainer guid =>
      cases r with
      | error err => trivial
      | ok container => exact hw.containers guid container hact.2
    | taskByGuid guid =>
      cases r with
      | error err => trivial
      | ok task => exact hact.2
    | _ => trivial

/-- **A finished task keeps its container** in every run whose replies are dependable and
whose executor keeps refused containers from completing. Any number of syncs, operations and
cancellations may run side by side. -/
theorem completed_task_never_lost (C : Cell) (w : TaskWorld) (hw : w.Fresh)
    (cfg : Config Call Reply TaskWorld TaskJob)
    (hrun : (dependableSystem C).Reachable ⟨w, []⟩ cfg) : NeverLost cfg := by
  have hm := (taskContract C).sound hw.sound hrun
  refine ⟨hm.inv.kept, ?_⟩
  intro th hth guid k hpending hmem hcancelled hrunning
  have hgone : guid ∈ ((taskContract C).ghost th).gone := hm.licensed hth hpending rfl
  refine hm.inv.kept guid hmem ?_ ((hm.keeps th hth).1.gone guid hgone).2
  rintro (hsettled | hmem')
  · rw [hrunning] at hsettled
    cases hsettled
  · exact hcancelled hmem'

/-! ### Two ends of one task

The task is started, run and completed. If its completion is accepted, the container is
deleted and nothing is lost. If the completion fails for a reason that is not an invalid
transition, the container is deleted all the same. -/

/-- The container when it has completed, without a failure and without a result file. -/
def sampleFinished : Container := { sampleTaskContainer with state := .completed }

/-- An executor with one container, under the guid of the task. -/
def onlyContainer (container : Container) : Containers :=
  Function.update (fun _ => none) "task" (some container)

/-- What is found there is that container. -/
theorem of_onlyContainer {container container' : Container} {guid : String}
    (h : onlyContainer container guid = some container') :
    guid = "task" ∧ container' = container := by
  by_cases heq : guid = "task"
  · subst heq
    exact ⟨rfl, (Option.some.inj h).symm⟩
  · rw [onlyContainer, Function.update_of_ne heq] at h
    cases h

/-- A pending task with a reserved container. -/
def sampleStart : TaskWorld where
  containers := onlyContainer sampleTaskContainer
  completed := ∅
  cancelled := ∅
  refused := ∅
  phase := fun _ => .pending
  queued := ∅

/-- The task is running. The set of refusals is written as the answer leaves it, and is empty. -/
def sampleStarted : TaskWorld :=
  { sampleStart with
    phase := Function.update sampleStart.phase "task" .running
    refused := ∅ ∪ {guid | guid = "task" ∧ StartRefused Cell.sample none} }

/-- Its container has completed, and the BBS does not know yet. -/
def sampleCompleted : TaskWorld :=
  { sampleStarted with
    containers := onlyContainer sampleFinished
    completed := {"task"} }

/-- The sample is a state to start from. -/
theorem sampleStart_fresh : sampleStart.Fresh := by
  refine ⟨?_, ?_, rfl, rfl⟩
  · intro guid container hfound
    obtain ⟨rfl, rfl⟩ := of_onlyContainer hfound
    exact ⟨rfl, rfl⟩
  · intro guid
    refine ⟨fun hmem => absurd hmem (Set.notMem_empty _), ?_⟩
    rintro ⟨container, hfound, hstate⟩
    obtain ⟨-, rfl⟩ := of_onlyContainer hfound
    cases hstate

/-- The container completes on its own, which nothing forbids. -/
theorem sampleStarted_drifts : TaskDrifts sampleStarted sampleCompleted := by
  refine ⟨rfl, rfl, subset_rfl, fun _ => Or.inl rfl, ?_, ?_, ?_⟩
  · intro guid hmem
    exact absurd hmem (Set.notMem_empty _)
  · intro guid _
    refine ⟨?_, ?_⟩
    · rintro rfl
      exact ⟨sampleFinished, rfl, rfl⟩
    · rintro ⟨container, hfound, -⟩
      exact (of_onlyContainer hfound).1
  · intro guid container hfound
    obtain ⟨rfl, rfl⟩ := of_onlyContainer hfound
    exact ⟨⟨rfl, rfl⟩, Or.inl (Option.some_ne_none _)⟩

/-- A container operation may be started in any state, being no residual operation. -/
theorem spawn_container (w : TaskWorld) : (taskSystem Cell.sample).spawn w
    (.operation (.container "task")) (Operation.execute Cell.sample (.container "task")) :=
  ⟨rfl, fun h => absurd h (by decide)⟩

/-- The assumptions are about answers and the executor, so they do not restrict what is
started. -/
theorem spawn_dependable (w : TaskWorld) : (dependableSystem Cell.sample).spawn w
    (.operation (.container "task")) (Operation.execute Cell.sample (.container "task")) :=
  System.spawn_restrict.mpr (System.spawn_calm.mpr (spawn_container w))

/-- The common part of both runs: the task is started, run and completed, with nothing
refused. -/
theorem sampleCompleted_reachable : ∃ ts : List (Thread Call Reply TaskJob),
    (dependableSystem Cell.sample).Reachable ⟨sampleStart, []⟩ ⟨sampleCompleted, ts⟩ := by
  obtain ⟨req, hreq⟩ : ∃ req, newRunRequestFromTask Cell.sample.ext sampleTask = .ok req :=
    ⟨_, rfl⟩
  have hstart : taskAnswer Cell.sample sampleStart (.startTask "task" "cell") (true, none)
      sampleStarted :=
    ⟨.running, Or.inr ⟨rfl, rfl⟩, rfl⟩
  have hexec : Prog.Exec (dependableSystem Cell.sample).act
      (Operation.execute Cell.sample (.container "task")) sampleStart (sampleFirst req) ()
      sampleStarted := by
    cases hreq
    exact .call ⟨⟨rfl, rfl⟩, fun _ h => h.elim, trivial⟩
      (.call ⟨hstart, fun _ h => h.2.elim, trivial⟩
      (.call ⟨⟨rfl, rfl⟩, fun _ h => h.elim, trivial⟩
      (.call ⟨rfl, fun _ h => h.elim, trivial⟩ (.ret _ _))))
  -- nothing was refused, so the container may complete on its own
  have hkeeps : KeepsRefused sampleStarted sampleCompleted := by
    rintro guid (hmem | ⟨-, hrefused⟩)
    · exact absurd hmem (Set.notMem_empty _)
    · exact hrefused.elim
  exact ⟨_, (System.Reachable.spawn_exec (spawn_dependable _) hexec []).tail
    (.env ⟨sampleStarted_drifts, hkeeps⟩)⟩

/-- Accepted, the completion settles the task, and its container may go. -/
theorem sampleCompleted_never_lost : ∃ cfg : Config Call Reply TaskWorld TaskJob,
    (dependableSystem Cell.sample).Reachable ⟨sampleStart, []⟩ cfg ∧
    "task" ∈ cfg.world.completed ∧ cfg.world.containers "task" = none ∧ NeverLost cfg := by
  obtain ⟨ts, hrun⟩ := sampleCompleted_reachable
  let settled : TaskWorld :=
    { sampleCompleted with phase := Function.update sampleCompleted.phase "task" .settled }
  have hexec : Prog.Exec (dependableSystem Cell.sample).act
      (Operation.execute Cell.sample (.container "task")) sampleCompleted
      [⟨.getContainer "task", .ok sampleFinished⟩,
        ⟨.completeTask "task" "cell" false "" [], none⟩, ⟨.deleteContainer "task", none⟩] ()
      { settled with containers := Function.update settled.containers "task" none } :=
    .call ⟨⟨rfl, rfl⟩, fun _ h => h.elim, trivial⟩
      (.call ⟨rfl, fun _ h => h.elim, trivial⟩
      (.call ⟨rfl, fun _ h => h.elim, trivial⟩ (.ret _ _)))
  have hdone := hrun.trans (System.Reachable.spawn_exec (spawn_dependable _) hexec ts)
  exact ⟨_, hdone, rfl, rfl,
    completed_task_never_lost Cell.sample sampleStart sampleStart_fresh _ hdone⟩

/-- Not accepted, the container is deleted as well, and the next sync makes the rep
report it missing while the BBS holds the task as running. -/
theorem sampleLost_lost : sampleStart.Fresh ∧
    ∃ cfg : Config Call Reply TaskWorld TaskJob,
      (taskSystem Cell.sample).Reachable ⟨sampleStart, []⟩ cfg ∧
      cfg.world.containers "task" = none ∧
      (∃ th ∈ cfg.threads, ∃ k,
        th.rest = .call (.failTask "task" TaskProcessor.reasonMissingContainer) k ∧
        "task" ∈ cfg.world.completed ∧ "task" ∉ cfg.world.cancelled ∧
        cfg.world.phase "task" = .running) ∧ ¬ NeverLost cfg := by
  obtain ⟨ts, hrun⟩ := sampleCompleted_reachable
  let deleted : TaskWorld :=
    { sampleCompleted with containers := Function.update sampleCompleted.containers "task" none }
  let queued : TaskWorld := { deleted with queued := insert (.residualTask "task") ∅ }
  -- the completion times out, and the container with the result is deleted all the same
  have hlost : Prog.Exec (taskAnswer Cell.sample)
      (Operation.execute Cell.sample (.container "task")) sampleCompleted
      [⟨.getContainer "task", .ok sampleFinished⟩,
        ⟨.completeTask "task" "cell" false "" [], some (.text "timeout")⟩,
        ⟨.deleteContainer "task", none⟩] () deleted :=
    .call ⟨rfl, rfl⟩ (.call rfl (.call rfl (.ret _ _)))
  -- the next sync finds the task without a container
  have hsync : Prog.Exec (taskAnswer Cell.sample) (sync Cell.sample Schedule.inOrder) deleted
      [⟨.listContainers, .ok []⟩, ⟨.actualLRPGroups "cell", .ok []⟩,
        ⟨.tasksByCellID "cell", .ok [sampleTask]⟩, ⟨.push (.residualTask "task"), ()⟩] ()
      queued := by
    refine .call ⟨rfl, fun _ h => absurd h List.not_mem_nil⟩ (.call rfl
      (.call ⟨rfl, fun task hmem => ?_⟩ (.call rfl (.ret _ _))))
    obtain rfl := List.mem_singleton.mp hmem
    exact Phase.noConfusion
  let th : Thread Call Reply TaskJob := ⟨.operation (.residualTask "task"),
    [⟨.getContainer "task", .error .containerNotFound⟩],
    .call (.failTask "task" TaskProcessor.reasonMissingContainer) fun _ => .ret ()⟩
  have hspawn : (taskSystem Cell.sample).spawn queued (.operation (.residualTask "task"))
      (Operation.execute Cell.sample (.residualTask "task")) := ⟨rfl, fun _ => Set.mem_insert _ _⟩
  have hanswer : (taskSystem Cell.sample).act queued (.getContainer "task")
      (.error .containerNotFound) queued := ⟨rfl, rfl⟩
  have hdeleted := hrun.of_restrict.of_calm.trans
    (System.Reachable.spawn_exec (spawn_container _) hlost ts)
  have hqueued := hdeleted.trans (System.Reachable.spawn_exec (l := .sync Schedule.inOrder) rfl
    hsync _)
  have hpending : (taskSystem Cell.sample).Reachable ⟨sampleStart, []⟩ ⟨queued, th :: _⟩ :=
    (hqueued.tail (.spawn hspawn)).tail (.act [] _ hanswer)
  refine ⟨sampleStart_fresh, _, hpending, rfl,
    ⟨th, List.mem_cons_self .., _, rfl, rfl, Set.notMem_empty _, rfl⟩, ?_⟩
  intro hnever
  exact hnever.unreported th (List.mem_cons_self ..) "task" _ rfl rfl (Set.notMem_empty _) rfl

end CellRep
