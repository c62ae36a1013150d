import CellRep.AuctionCell
import CellRep.Generator
import CellRep.Pool
import Mathlib.Data.Set.Basic

/-!
# Starting a task

The task processor commits the start with the BBS first (`StartTask`) and only then
fetches the task, converts it and runs it. Two questions about that order:

* **at most once** — over any interleaving of operations, is the executor asked to
  run a task once at most? It is, and only by the operation whose own start made the
  transition.
* **all or nothing** — is a task whose start was committed run or failed before the
  processor returns? Not when the fetch or the conversion fails; exactly then it is
  neither.
-/

namespace CellRep

open Executor (Container)

/-! ## All or nothing

The predicates speak about the trace of one processing of a container. `ActiveRun` lists all
the traces there are; the theorem is then decided trace by trace. -/

/-- The container is in one of the four active states; the processor treats them alike. -/
def Active (container : Container) : Prop :=
  container.state = .reserved ∨ container.state = .initializing ∨
    container.state = .created ∨ container.state = .running

/-- The start of the container's task was answered with "changed": the BBS now counts the task
as running on this cell. -/
def StartCommitted (C : Cell) (container : Container) (t : List RepEvent) : Prop :=
  (⟨.startTask container.guid C.cellID, (true, none)⟩ : RepEvent) ∈ t

/-- The executor accepted to run the task. The request is only known by its guid here, as in
the executor. -/
def RunAccepted (container : Container) (t : List RepEvent) : Prop :=
  ∃ req, req.guid = container.guid ∧ (⟨.runContainer req, none⟩ : RepEvent) ∈ t

/-- The BBS was asked to fail the task, whatever it answered: the processor can do no more. -/
def FailRequested (container : Container) (t : List RepEvent) : Prop :=
  ∃ reason r, (⟨.failTask container.guid reason, r⟩ : RepEvent) ∈ t

/-- A committed start is followed up. A start that was not committed needs no sequel, the task
being still pending. -/
def AllOrNothing (C : Cell) (container : Container) (t : List RepEvent) : Prop :=
  StartCommitted C container t → RunAccepted container t ∨ FailRequested container t

/-- The reply to fetching a task is a task whose rootfs is a URL and whose volume mounts all
convert. -/
def Runnable (C : Cell) (reply : Except Err Models.Task) : Prop :=
  ∃ task, reply = .ok task ∧ (∃ url, C.ext.parseURL task.rootFs = .ok url) ∧
    ∀ volumeMnt ∈ task.volumeMounts, Mountable C.ext volumeMnt

/-- Such a task is one that a run request can be made for. The definition spells out what that
takes, and the conversion never fails for another reason. -/
theorem runnable_iff {C : Cell} {reply : Except Err Models.Task} :
    Runnable C reply ↔
      ∃ task req, reply = .ok task ∧ newRunRequestFromTask C.ext task = .ok req := by
  simp only [Runnable, exists_and_left, newRunRequestFromTask_ok, diskScopeForRootFS_ok,
    convertVolumeMounts_ok]

/-- What processing an active container comes to, call by call. -/
inductive ActiveRun (C : Cell) (container : Container) : List RepEvent → Prop where
  /-- the start fails, or changes nothing -/
  | notStarted {r : Bool × Option Err} : r ≠ (true, none) →
      ActiveRun C container [⟨.startTask container.guid C.cellID, r⟩]
  /-- the start is refused and the container deleted -/
  | refused {r : Bool × Option Err} {d : Option Err} : r ≠ (true, none) →
      ActiveRun C container
        [⟨.startTask container.guid C.cellID, r⟩, ⟨.deleteContainer container.guid, d⟩]
  /-- the task cannot be fetched -/
  | notFetched {err : Err} : ActiveRun C container
      [⟨.startTask container.guid C.cellID, (true, none)⟩,
        ⟨.taskByGuid container.guid, .error err⟩]
  /-- the task cannot be converted -/
  | notConverted {task : Models.Task} {err : Err} :
      newRunRequestFromTask C.ext task = .error err → ActiveRun C container
      [⟨.startTask container.guid C.cellID, (true, none)⟩,
        ⟨.taskByGuid container.guid, .ok task⟩]
  /-- the executor accepts -/
  | accepted {task : Models.Task} {req : Executor.RunRequest} :
      newRunRequestFromTask C.ext task = .ok req → ActiveRun C container
      [⟨.startTask container.guid C.cellID, (true, none)⟩,
        ⟨.taskByGuid container.guid, .ok task⟩, ⟨.runContainer req, none⟩]
  /-- the executor does not; the container is deleted and the task failed -/
  | failed {task : Models.Task} {req : Executor.RunRequest} {err : Err} {d f : Option Err} :
      newRunRequestFromTask C.ext task = .ok req → ActiveRun C container
      [⟨.startTask container.guid C.cellID, (true, none)⟩,
        ⟨.taskByGuid container.guid, .ok task⟩, ⟨.runContainer req, some err⟩,
        ⟨.deleteContainer req.guid, d⟩,
        ⟨.failTask container.guid TaskProcessor.reasonFailedToRunContainer, f⟩]

section

variable {C : Cell} {container : Container} {t : List RepEvent}

/-- Every trace of `processActiveContainer` is one of the six. The cases follow the code: the
answer to the start, the answer to the fetch, the conversion, and the answer to the run. -/
theorem activeRun_of_trace (ht : (TaskProcessor.processActiveContainer C container).Trace t ()) :
    ActiveRun C container t := by
  rw [TaskProcessor.processActiveContainer, Prog.trace_bind] at ht
  obtain ⟨t₁, t₂, ok, rfl, hstart, ht⟩ := ht
  obtain ⟨r, hok, hstart⟩ := TaskProcessor.trace_startTask hstart
  -- the cases of `ActiveRun` are the places where the function can end
  cases ok with
  | false =>
    have hne : r ≠ (true, none) := fun h => Bool.false_ne_true (hok.mpr h)
    obtain ⟨rfl, -⟩ := Prog.trace_ret.mp ht
    rcases hstart with rfl | ⟨-, d, rfl⟩
    · exact .notStarted hne
    · exact .refused hne
  | true =>
    obtain rfl := hok.mp rfl
    rcases hstart with rfl | ⟨h, -⟩
    · simp only [if_pos, Bbs.taskByGuid, Prog.call_bind, Prog.ret_bind, Prog.trace_call] at ht
      obtain ⟨reply, t, rfl, ht⟩ := ht
      cases reply with
      | error err =>
        obtain ⟨rfl, -⟩ := Prog.trace_ret.mp ht
        exact .notFetched
      | ok task =>
        rcases hreq : newRunRequestFromTask C.ext task with err | req
        · simp only [hreq] at ht
          obtain ⟨rfl, -⟩ := Prog.trace_ret.mp ht
          exact .notConverted hreq
        · simp only [hreq] at ht
          rw [Prog.trace_bind] at ht
          obtain ⟨t₁, t₂, ok, rfl, hrun, ht⟩ := ht
          rcases Delegate.trace_runContainer.mp hrun with ⟨rfl, rfl⟩ | ⟨err, d, rfl, rfl⟩
          · obtain ⟨rfl, -⟩ := Prog.trace_ret.mp ht
            exact .accepted hreq
          · obtain ⟨f, t, rfl, hret⟩ := Prog.trace_call.mp ht
            obtain ⟨rfl, -⟩ := Prog.trace_ret.mp hret
            exact .failed hreq
    · cases h

/-- A run that ends with the fetch leaves a committed start without a sequel: neither of its
two calls is a run or a failure. -/
theorem not_allOrNothing_of_fetch_last {reply : Except Err Models.Task} :
    ¬ AllOrNothing C container [⟨.startTask container.guid C.cellID, (true, none)⟩,
      ⟨.taskByGuid container.guid, reply⟩] := by
  intro h
  rcases h (List.mem_cons_self ..) with ⟨req, -, hmem⟩ | ⟨reason, r, hmem⟩
  · simp at hmem
  · simp at hmem

/-- An active container is processed as one, in each of the four states. -/
theorem process_eq_processActiveContainer (hactive : Active container) :
    TaskProcessor.process C container = TaskProcessor.processActiveContainer C container := by
  rcases hactive with h | h | h | h <;> rw [TaskProcessor.process, h]

end

/-- **Starting a task is all or nothing exactly when the fetch, if it is made, brings
a task that can be converted.** The fetch and the conversion stand between the
committed start and the run, and neither failure is compensated. -/
theorem allOrNothing_iff (C : Cell) (container : Container) (hactive : Active container)
    (t : List RepEvent) (ht : (TaskProcessor.process C container).Trace t ())
    (hfetch : ∀ task, (⟨.taskByGuid container.guid, .ok task⟩ : RepEvent) ∈ t →
      task.taskGuid = container.guid) :
    AllOrNothing C container t ↔
      ∀ reply, (⟨.taskByGuid container.guid, reply⟩ : RepEvent) ∈ t → Runnable C reply := by
  rw [process_eq_processActiveContainer hactive] at ht
  cases activeRun_of_trace ht with
  | @notStarted r hne =>
    -- nothing is committed and nothing is fetched
    refine ⟨?_, ?_⟩
    · intro _ reply hmem
      simp at hmem
    · intro _ hstart
      simp only [StartCommitted, List.mem_singleton, Sigma.mk.injEq, heq_eq_eq, true_and] at hstart
      exact absurd hstart.symm hne
  | @refused r d hne =>
    refine ⟨?_, ?_⟩
    · intro _ reply hmem
      simp at hmem
    · intro _ hstart
      simp only [StartCommitted, List.mem_cons, List.not_mem_nil, Sigma.mk.injEq, heq_eq_eq,
        true_and, reduceCtorEq, false_and, or_false] at hstart
      exact absurd hstart.symm hne
  | @notFetched err =>
    -- the start is committed; the fetch is the last call and brings no task
    refine ⟨fun h => absurd h not_allOrNothing_of_fetch_last, ?_⟩
    intro h
    obtain ⟨task, heq, -⟩ := h (.error err) (by simp)
    cases heq
  | @notConverted task err hreq =>
    -- the task fetched has no request
    refine ⟨fun h => absurd h not_allOrNothing_of_fetch_last, ?_⟩
    intro h
    obtain ⟨task', req, heq, hreq'⟩ := runnable_iff.mp (h (.ok task) (by simp))
    cases heq
    rw [hreq] at hreq'
    cases hreq'
  -- run with the container's own guid, by the assumption on the fetch
  | @accepted task req hreq =>
    have hguid : req.guid = container.guid :=
      (guid_of_newRunRequestFromTask hreq).trans (hfetch task (by simp))
    refine ⟨fun _ reply hmem => runnable_iff.mpr ⟨task, req, ?_, hreq⟩,
      fun _ _ => Or.inl ⟨req, hguid, by simp⟩⟩
    simpa using hmem
  | @failed task req err d f hreq =>
    refine ⟨fun _ reply hmem => runnable_iff.mpr ⟨task, req, ?_, hreq⟩, fun _ _ =>
      Or.inr ⟨TaskProcessor.reasonFailedToRunContainer, f, by simp⟩⟩
    simpa using hmem

/-! ### A start that is neither run nor failed

The start of the task is committed, and then the operation returns without a further word to
the BBS. -/

/-- The container of a task that was just allocated. -/
def sampleTaskContainer : Container :=
  (taskRequest ⟨"task", "domain", ⟨[], [], ""⟩, ⟨64, 32, 10⟩⟩ "").container

/-- A task the BBS knows by the guid of the sample container. -/
def sampleTask : Models.Task :=
  ⟨"task", "preloaded:linux", [], "", 0, false, "", "", "", [], none, [], [], "", none, none,
    "", ""⟩

/-- The BBS commits the start and then cannot be reached. -/
def sampleLostStart : List RepEvent :=
  [⟨.startTask "task" "cell", (true, none)⟩, ⟨.taskByGuid "task", .error (.text "unavailable")⟩]

/-- The start is committed, and the processor returns with the task neither run nor
failed; processing the container again finds it already started and does nothing. -/
theorem sampleLostStart_not_allOrNothing : Active sampleTaskContainer ∧
    (TaskProcessor.process Cell.sample sampleTaskContainer).Trace sampleLostStart () ∧
    ¬ AllOrNothing Cell.sample sampleTaskContainer sampleLostStart ∧
    (TaskProcessor.process Cell.sample sampleTaskContainer).Trace
      [⟨.startTask "task" "cell", (false, none)⟩] () := by
  refine ⟨Or.inl rfl, .call _ (.call _ (.ret _)), ?_, .call _ (.ret _)⟩
  exact not_allOrNothing_of_fetch_last

/-- The start is followed up when the task can be fetched and converted: here the
executor accepts it. -/
theorem allOrNothing_sampleTaskContainer : ∃ t, StartCommitted Cell.sample sampleTaskContainer t ∧
    AllOrNothing Cell.sample sampleTaskContainer t := by
  obtain ⟨req, hreq⟩ : ∃ req, newRunRequestFromTask Cell.sample.ext sampleTask = .ok req :=
    ⟨_, rfl⟩
  refine ⟨[⟨.startTask "task" "cell", (true, none)⟩, ⟨.taskByGuid "task", .ok sampleTask⟩,
    ⟨.runContainer req, none⟩], List.mem_cons_self .., (allOrNothing_iff Cell.sample
      sampleTaskContainer (Or.inl rfl) _ ?_ ?_).mpr fun reply hmem =>
        ⟨sampleTask, ?_, ⟨_, rfl⟩, List.forall_mem_nil _⟩⟩
  · cases hreq
    exact .call _ (.call _ (.call _ (.ret _)))
  · intro task hmem
    simp only [List.mem_cons, List.not_mem_nil, Sigma.mk.injEq, reduceCtorEq, false_and, heq_eq_eq,
      Except.ok.injEq, or_false, false_or] at hmem
    rw [hmem.2]
    rfl
  · simp only [List.mem_cons, List.not_mem_nil, Sigma.mk.injEq, reduceCtorEq, false_and, heq_eq_eq,
      or_false, false_or] at hmem
    exact hmem.2

/-! ## At most once

Whether an operation runs the task depends on the reply to its own start, and two operations
get their replies from one BBS. The proof is a contract of the pool: the ghost state of an
operation is its past, the world is the set of tasks that are no longer pending, and pasts of
two operations are compatible as long as they do not both contain a successful start. -/

/-- The event asks the executor to run the container `guid`. The reply is not looked at, so
refused requests count as well. -/
def isRun (guid : String) (e : RepEvent) : Bool :=
  match e.1 with
  | .runContainer req => req.guid = guid
  | _ => false

/-- How often a program has asked the executor to run the container `guid`, refused requests
included. -/
def runsOf (guid : String) (past : List RepEvent) : ℕ := past.countP (isRun guid)

/-- The program's own start of the task `guid` made the transition; which cell it named is left
out. -/
def StartedIn (guid : String) (past : List RepEvent) : Prop :=
  ∃ cellID, (⟨.startTask guid cellID, (true, none)⟩ : RepEvent) ∈ past

/-- The replies to expect: a task fetched by its guid has that guid, and the
container `guid`, being a task's, is not tagged as an LRP's. -/
def TaskReply (guid : String) : (c : Call) → Reply c → Prop
  | .taskByGuid asked, .ok task => task.taskGuid = asked
  | .getContainer _, .ok container =>
    container.tags.get lifecycleTag = lrpLifecycle → container.guid ≠ guid
  | _, _ => True

/-- How the world answers. The world is the set of tasks that are no longer pending;
it only grows, and a start reports a change only for a task that was pending. -/
def startAnswer (guid : String) (w : Set String) (c : Call) (r : Reply c) (w' : Set String) :
    Prop :=
  w ⊆ w' ∧ TaskReply guid c r ∧
    ∀ task cellID, (⟨c, r⟩ : RepEvent) = ⟨.startTask task cellID, (true, none)⟩ →
      task ∉ w ∧ task ∈ w'

/-- Any number of operations of any kind, started at any time, side by side. Tasks may also be
moved on by others, between any two calls: the environment only has to respect that a task
does not become pending again. -/
def startSystem (C : Cell) (guid : String) : System Call Reply (Set String) Operation where
  act := startAnswer guid
  env w w' := w ⊆ w'
  spawn _ op p := p = op.execute C

/-- A program's runs of `guid` so far: one at most, and after its own start. The second part
is what makes the runs of different programs exclude each other. -/
structure RanOnce (guid : String) (past : List RepEvent) : Prop where
  once : runsOf guid past ≤ 1
  own : ∀ t₁ req r t₂, past = t₁ ++ ⟨.runContainer req, r⟩ :: t₂ → req.guid = guid →
    StartedIn guid t₁

/-- A run of `guid` is licensed once, after the program's own start. All other calls are free. -/
def RunLicensed (guid : String) (past : List RepEvent) (c : Call) : Prop :=
  ∀ req, c = .runContainer req → req.guid = guid → StartedIn guid past ∧ runsOf guid past = 0

/-- The specification of a single operation, over the history of its own calls. -/
abbrev runSpec (guid : String) : Spec Call Reply (List RepEvent) :=
  Spec.history (RunLicensed guid) (TaskReply guid)

section

variable {C : Cell} {guid : String} {past : List RepEvent}

/-- The count goes up with a run of `guid` and with nothing else. -/
theorem runsOf_concat (e : RepEvent) :
    runsOf guid (past ++ [e]) = runsOf guid past + if isRun guid e then 1 else 0 := by
  rw [runsOf, List.countP_append, List.countP_singleton]
  rfl

theorem StartedIn.concat (h : StartedIn guid past) (e : RepEvent) :
    StartedIn guid (past ++ [e]) := by
  obtain ⟨cellID, hmem⟩ := h
  exact ⟨cellID, List.mem_append_left _ hmem⟩

/-- A licensed call keeps a program's record: this is the step of the invariant, and the
licence is exactly what it needs. -/
theorem RanOnce.concat (h : RanOnce guid past) {c : Call} {r : Reply c}
    (hc : RunLicensed guid past c) : RanOnce guid (past ++ [⟨c, r⟩]) := by
  refine ⟨?_, ?_⟩
  · rw [runsOf_concat]
    by_cases hrun : isRun guid ⟨c, r⟩
    · cases c with
      | runContainer req =>
        have hguid : req.guid = guid := by simpa [isRun] using hrun
        rw [(hc req rfl hguid).2, if_pos hrun]
      | _ => cases hrun
    · rw [if_neg hrun]
      exact h.once
  · intro t₁ req r' t₂ hsplit hguid
    -- the split is at the new call or before it
    rcases List.eq_nil_or_concat t₂ with rfl | ⟨t₂, e, rfl⟩
    · obtain ⟨rfl, heq⟩ := List.append_inj' hsplit rfl
      injection heq with heq
      cases heq
      exact (hc req rfl hguid).1
    · rw [List.concat_eq_append, ← List.cons_append, ← List.append_assoc] at hsplit
      obtain ⟨hpast, -⟩ := List.append_inj' hsplit rfl
      exact h.own t₁ req r' t₂ hpast hguid

/-- Calls that do not run `guid` are licensed everywhere. Most calls of the code are disposed
of by this. -/
theorem runLicensed_of_ne {c : Call} (h : ∀ req, c = .runContainer req → req.guid ≠ guid) :
    RunLicensed guid past c :=
  fun req hc hguid => absurd hguid (h req hc)

/-- A program confined to calls that do not run `guid` meets the specification, whatever it
does otherwise. The LRP processors and the residual operations are treated in this way. -/
theorem wp_runSpec_of_only {P : Call → Prop} {p : RepM Unit} (hp : p.Only P)
    (hP : ∀ req, P (.runContainer req) → req.guid ≠ guid) :
    p.wp (runSpec guid) (fun _ _ => True) past := by
  refine hp.wp (I := fun _ => True) (fun past c _ hc => ⟨?_, fun _ _ => trivial⟩) trivial
  exact runLicensed_of_ne fun req heq => hP req (heq ▸ hc)

/-- The calls of the residual operations, among which there is no run. -/
def ResidualCall : Call → Prop
  | .getContainer _ => True
  | .removeActualLRP _ _ _ => True
  | .removeEvacuatingActualLRP _ _ => True
  | .failTask _ _ => True
  | _ => False

/-- Looking for a container first, and nothing if it is there: the common form of the residual
operations. -/
theorem only_unless_container {asked : String} {p : RepM Unit} (hp : p.Only ResidualCall) :
    (do match ← Delegate.getContainer asked with
        | some _ => return
        | none => p : RepM Unit).Only ResidualCall := by
  refine Prog.Only.bind ⟨trivial, fun r => ?_⟩ fun found => ?_
  · cases r <;> trivial
  · cases found with
    | none => exact hp
    | some container => trivial

/-- A residual operation looks for its container and speaks to the BBS, and makes no other
call. -/
theorem execute_only {op : Operation} (hres : ∀ asked, op ≠ .container asked) :
    (op.execute C).Only ResidualCall := by
  cases op with
  | container asked => exact absurd rfl (hres asked)
  | residualInstance => exact only_unless_container ⟨trivial, fun _ => trivial⟩
  | residualEvacuating => exact only_unless_container ⟨trivial, fun _ => trivial⟩
  | residualJoint =>
    exact only_unless_container ⟨trivial, fun _ => ⟨trivial, fun _ => trivial⟩⟩
  | residualTask => exact only_unless_container ⟨trivial, fun _ => trivial⟩

/-- A delegate's deletion is licensed everywhere. It may be refused, so the postcondition is
to hold for both of its results. -/
theorem wp_deleteContainer_runSpec {asked : String} {post : List RepEvent → Bool → Prop}
    (hpost : ∀ past ok, post past ok) :
    (Delegate.deleteContainer asked).wp (runSpec guid) post past := by
  rw [Delegate.wp_deleteContainer]
  exact ⟨runLicensed_of_ne (by simp), fun _ _ => hpost _ _⟩

/-- An active container: whatever was started before, one run at most follows, and only after
this start. The hypothesis is about the whole past, of which this function is only a part. -/
theorem wp_processActive_runSpec {container : Container} (hruns : runsOf guid past = 0) :
    (TaskProcessor.processActiveContainer C container).wp (runSpec guid)
      (fun _ _ => True) past := by
  refine TaskProcessor.wp_processActiveContainer (TaskProcessor.wp_startTask.mpr
    ⟨runLicensed_of_ne (by simp), fun changed _ hchanged => ⟨runLicensed_of_ne (by simp), ?_⟩,
      fun changed err _ => ?_⟩)
  · subst hchanged
    intro task runReq hr hreq
    have hguid : runReq.guid = container.guid := (guid_of_newRunRequestFromTask hreq).trans hr
    refine Delegate.wp_runContainer.mpr ⟨fun req heq hrun => ?_, fun _ => nofun, fun err _ => ?_⟩
    · cases heq
      rw [hguid] at hrun
      subst hrun
      refine ⟨StartedIn.concat ⟨C.cellID, ?_⟩ _, ?_⟩
      · exact List.mem_append_right _ (List.mem_singleton.mpr rfl)
      · -- neither the start nor the fetch is a run
        exact (runsOf_concat _).trans ((runsOf_concat _).trans hruns)
    · exact wp_deleteContainer_runSpec fun _ _ _ => runLicensed_of_ne (by simp)
  · split
    · exact wp_deleteContainer_runSpec fun _ _ => nofun
    · nofun

/-- The task processor: only its active branch runs anything. -/
theorem wp_process_runSpec {container : Container} (hruns : runsOf guid past = 0) :
    (TaskProcessor.process C container).wp (runSpec guid) (fun _ _ => True) past := by
  rcases TaskProcessor.process_cases C container with ⟨-, h⟩ | ⟨-, h⟩ | h
  · rw [h]
    exact wp_processActive_runSpec hruns
  · rw [h]
    exact wp_runSpec_of_only TaskProcessor.processCompletedContainer_only fun req h => h.elim
  · rw [h]
    trivial

/-- Every operation meets the specification from an empty past. For an LRP's container the
runs are of that container, which by the assumption on tags is not the task's. -/
theorem wp_execute_runSpec (op : Operation) :
    (op.execute C).wp (runSpec guid) (fun _ _ => True) [] := by
  by_cases hres : ∀ asked, op ≠ .container asked
  · exact wp_runSpec_of_only (execute_only hres) fun req h => h.elim
  · push Not at hres
    obtain ⟨asked, rfl⟩ := hres
    refine Prog.wp_bind.mpr (Delegate.wp_getContainer.mpr
      ⟨runLicensed_of_ne (by simp), fun r hr => ?_⟩)
    cases r with
    | error err => trivial
    | ok container =>
      dsimp only [Except.toOption]
      by_cases hlrp : container.tags.get lifecycleTag = lrpLifecycle
      · rw [if_pos hlrp]
        exact wp_runSpec_of_only lrpProcess_only fun req h => h ▸ hr hlrp
      · rw [if_neg hlrp]
        split
        · exact wp_process_runSpec rfl
        · trivial

end

/-- The contract of the pool. A program that has started the task knows that the task is no
longer pending, and no two programs have started it. When a start succeeds, the task was
pending just before, so no other program can have started it: this is the only place where the
answers of the BBS matter. -/
def startContract (C : Cell) (guid : String) :
    Contract (startSystem C guid) (List RepEvent) where
  spec := runSpec guid
  init _ := []
  inv _ := True
  holds w past := (StartedIn guid past → guid ∈ w) ∧ RanOnce guid past
  compat past past' := ¬ (StartedIn guid past ∧ StartedIn guid past')
  compat_symm h hs := h ⟨hs.2, hs.1⟩
  env_ok := fun _ henv => ⟨trivial, fun past hpast => ⟨fun h => henv (hpast.1 h), hpast.2⟩⟩
  spawn_ok := fun _ hspawn => by
    subst hspawn
    have hempty : ¬ StartedIn guid [] := fun ⟨_, hmem⟩ => absurd hmem List.not_mem_nil
    refine ⟨wp_execute_runSpec _, ⟨fun h => absurd h hempty, ?_, ?_⟩, fun past h => hempty h.1⟩
    · exact Nat.zero_le _
    · intro t₁ req r t₂ h
      exact absurd h (by simp)
  act_ok := fun {w past c r w'} _ hholds hpre hact => by
    obtain ⟨hgrow, hreply, hstart⟩ := hact
    -- a start in the new past is an old one or this call
    have hcases : StartedIn guid (past ++ [⟨c, r⟩]) →
        StartedIn guid past ∨ (guid ∉ w ∧ guid ∈ w') := by
      rintro ⟨cellID, hmem⟩
      rcases List.mem_append.mp hmem with hmem | hmem
      · exact Or.inl ⟨cellID, hmem⟩
      · exact Or.inr (hstart guid cellID (List.mem_singleton.mp hmem).symm)
    refine ⟨hreply, trivial, ⟨fun h => ?_, hholds.2.concat hpre⟩, fun past' hholds' hcompat =>
      ⟨⟨fun h => hgrow (hholds'.1 h), hholds'.2⟩, fun h => ?_⟩⟩
    · rcases hcases h with h | h
      · exact hgrow (hholds.1 h)
      · exact h.2
    · rcases hcases h.1 with h' | h'
      · exact hcompat ⟨h', h.2⟩
      · exact h'.1 (hholds'.1 h.2)

/-- **A task is run at most once.** Over every run of the pool, the operations ask
the executor at most once, all together, to run the container `guid`, and only an
operation whose own start made the transition does. -/
theorem runContainer_at_most_once (C : Cell) (guid : String) (w : Set String)
    (cfg : Config Call Reply (Set String) Operation)
    (hrun : (startSystem C guid).Reachable ⟨w, []⟩ cfg) :
    (cfg.threads.map fun th => runsOf guid th.past).sum ≤ 1 ∧
      ∀ th ∈ cfg.threads, ∀ t₁ req r t₂, th.past = t₁ ++ ⟨.runContainer req, r⟩ :: t₂ →
        req.guid = guid → StartedIn guid t₁ := by
  have hm := (startContract C guid).sound trivial hrun
  have hghost : ∀ th : Thread Call Reply Operation, (startContract C guid).ghost th = th.past :=
    fun th => (Spec.after_history _ _).trans (List.nil_append _)
  have hranOnce : ∀ th ∈ cfg.threads, RanOnce guid th.past := fun th hth => by
    have h := (hm.keeps th hth).1.2
    rwa [hghost] at h
  refine ⟨List.sum_map_le_one_of_pairwise (p := fun th => StartedIn guid th.past) ?_
    (fun th hth => (hranOnce th hth).once) fun th hth hne => ?_,
    fun th hth => (hranOnce th hth).own⟩
  · refine hm.pairwise.imp fun {th th'} h => ?_
    rw [hghost, hghost] at h
    exact h
  · -- a program that has run the task has started it before
    obtain ⟨e, hmem, hrun⟩ := List.countP_pos_iff.mp (Nat.pos_of_ne_zero hne)
    obtain ⟨t₁, t₂, hsplit⟩ := List.append_of_mem hmem
    obtain ⟨c, r⟩ := e
    cases c with
    | runContainer req =>
      have hguid : req.guid = guid := by simpa [isRun] using hrun
      obtain ⟨cellID, hstart⟩ := (hranOnce th hth).own t₁ req r t₂ hsplit hguid
      exact ⟨cellID, by rw [hsplit]; exact List.mem_append_left _ hstart⟩
    | _ => cases hrun

/-! ### Two operations for one task

The first starts and runs the task; the second finds it started. -/

/-- The first operation, when the executor accepts the request `req`: the start comes back
with a change. -/
def sampleFirst (req : Executor.RunRequest) : List RepEvent :=
  [⟨.getContainer "task", .ok sampleTaskContainer⟩, ⟨.startTask "task" "cell", (true, none)⟩,
    ⟨.taskByGuid "task", .ok sampleTask⟩, ⟨.runContainer req, none⟩]

/-- The second operation, whose start comes back without one. -/
def sampleSecond : List RepEvent :=
  [⟨.getContainer "task", .ok sampleTaskContainer⟩, ⟨.startTask "task" "cell", (false, none)⟩]

/-- Two operations for one task, and one run of it. -/
theorem sampleTask_run_once : ∃ req,
    newRunRequestFromTask Cell.sample.ext sampleTask = .ok req ∧
    runsOf "task" sampleSecond + runsOf "task" (sampleFirst req) ≤ 1 ∧
    runsOf "task" (sampleFirst req) = 1 := by
  obtain ⟨req, hreq⟩ : ∃ req, newRunRequestFromTask Cell.sample.ext sampleTask = .ok req :=
    ⟨_, rfl⟩
  have hplain : ∀ (w : Set String) (c : Call) (r : Reply c), TaskReply "task" c r →
      (∀ task cellID, (⟨c, r⟩ : RepEvent) ≠ ⟨.startTask task cellID, (true, none)⟩) →
      startAnswer "task" w c r w := fun w c r hreply hne =>
    ⟨subset_rfl, hreply, fun task cellID heq => absurd heq (hne task cellID)⟩
  have hget : ∀ w : Set String, startAnswer "task" w (.getContainer "task")
      (.ok sampleTaskContainer) w := fun w =>
    hplain w _ _ (fun h => absurd h (by decide)) fun _ _ h => by cases h
  have hfirst : Prog.Exec (startAnswer "task") (Operation.execute Cell.sample (.container "task"))
      ∅ (sampleFirst req) () {"task"} := by
    cases hreq
    have hstart : startAnswer "task" ∅ (.startTask "task" "cell") (true, none) {"task"} := by
      refine ⟨Set.empty_subset _, trivial, ?_⟩
      intro task cellID heq
      cases heq
      exact ⟨Set.notMem_empty _, rfl⟩
    exact .call (hget _) (.call hstart (.call (hplain _ _ _ rfl fun _ _ h => by cases h) (.call
      (hplain _ _ _ trivial fun _ _ h => by cases h) (.ret _ _))))
  -- the second operation is told that the task runs already, and runs nothing
  have hsecond : Prog.Exec (startAnswer "task") (Operation.execute Cell.sample (.container "task"))
      {"task"} sampleSecond () {"task"} :=
    .call (hget _) (.call (hplain _ _ _ trivial fun _ _ h => by cases h) (.ret _ _))
  have hrun : (startSystem Cell.sample "task").Reachable ⟨∅, []⟩ _ :=
    (System.Reachable.spawn_exec rfl hfirst []).trans (System.Reachable.spawn_exec rfl hsecond _)
  have honce := (runContainer_at_most_once Cell.sample "task" ∅ _ hrun).1
  refine ⟨req, hreq, honce, ?_⟩
  cases hreq
  decide

end CellRep
