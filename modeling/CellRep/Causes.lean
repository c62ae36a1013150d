import CellRep.AuctionCell
import CellRep.Generator

/-!
# Containers go only for cause

What `ContainerOperation.Execute` may do to a container when the cell is not
evacuating. `Permitted` says of every call, in terms of the calls before it, that it
is about this container and, if it runs, stops or deletes the container, that there
was a reason: a claim or a start that succeeded, or a refusal of exactly the listed
types. An error of any other type licenses nothing.

The specification is one of histories (`Spec.history`): the ghost state of a program
is the list of its own calls so far. Reasons only accumulate, so every rule below
holds from any history.
-/

namespace CellRep

open Executor (Container)

/-! ## The specification

The predicates come in two layers. `Targets` is about a single call and says whom it concerns;
`MayRun`, `MayDelete` and `MayStop` are about the calls before it and say what the reason was.
`Permitted` puts them together, one clause for each call that does something to a container. -/

section

variable (C : Cell) (container : Container)

/-- The call is about this container: about its guid, or about the keys decoded from
its tags. Calls that are not listed are not made at all. -/
def Targets : Call → Prop
  | .evacuating => True
  | .runContainer req => req.guid = container.guid
  | .stopContainer guid => guid = container.guid
  | .deleteContainer guid => guid = container.guid
  | .getFiles guid filename =>
    guid = container.guid ∧ filename = container.tags.get resultFileTag
  | .tarNext => True
  | .tarRead _ => True
  | .claimActualLRP processGuid index instanceKey =>
    ∃ lrp, decodeLRPContainer C container = .ok lrp ∧ processGuid = lrp.key.processGuid ∧
      index = lrp.key.index.toInt64 ∧ instanceKey = lrp.instanceKey
  | .startActualLRP key instanceKey _ =>
    ∃ lrp, decodeLRPContainer C container = .ok lrp ∧ key = lrp.key ∧
      instanceKey = lrp.instanceKey
  | .crashActualLRP key instanceKey _ =>
    ∃ lrp, decodeLRPContainer C container = .ok lrp ∧ key = lrp.key ∧
      instanceKey = lrp.instanceKey
  | .removeActualLRP processGuid index instanceKey =>
    ∃ lrp, decodeLRPContainer C container = .ok lrp ∧ processGuid = lrp.key.processGuid ∧
      index = lrp.key.index.toInt64 ∧ instanceKey = lrp.instanceKey
  | .desiredLRPByProcessGuid processGuid =>
    ∃ lrp, decodeLRPContainer C container = .ok lrp ∧ processGuid = lrp.key.processGuid
  | .startTask guid cellID => guid = container.guid ∧ cellID = C.cellID
  | .taskByGuid guid => guid = container.guid
  | .completeTask guid cellID _ _ _ => guid = container.guid ∧ cellID = C.cellID
  | .failTask guid _ => guid = container.guid
  | _ => False

/-- The claim made for the container was answered with `r`. The keys of the claim are those
decoded from the container's own tags, so that a claim for another LRP is no reason. -/
def Claimed (h : List RepEvent) (r : Option Err) : Prop :=
  ∃ lrp, decodeLRPContainer C container = .ok lrp ∧
    (⟨.claimActualLRP lrp.key.processGuid lrp.key.index.toInt64 lrp.instanceKey, r⟩ : RepEvent) ∈ h

/-- The start reported for the container was answered with `r`; the ports reported do not
matter. -/
def Started (h : List RepEvent) (r : Option Err) : Prop :=
  ∃ lrp netInfo, decodeLRPContainer C container = .ok lrp ∧
    (⟨.startActualLRP lrp.key lrp.instanceKey netInfo, r⟩ : RepEvent) ∈ h

/-- The start of the container's task was answered with `r`, whose first part says whether the
BBS changed the task. -/
def TaskStarted (h : List RepEvent) (r : Bool × Option Err) : Prop :=
  (⟨.startTask container.guid C.cellID, r⟩ : RepEvent) ∈ h

/-- A reserved LRP runs after a successful claim, a task after a start that changed it. A
start that succeeded without a change was somebody else's, and licenses no run. -/
def MayRun (h : List RepEvent) : Prop :=
  (container.tags.get lifecycleTag = lrpLifecycle ∧ container.state = .reserved ∧
    Claimed C container h none) ∨
  (container.tags.get lifecycleTag = taskLifecycle ∧ TaskStarted C container h (true, none))

/-- A container that is not completed is deleted after a refused claim, after a
refused start of its task, or when the executor would not run it. -/
def MayDelete (h : List RepEvent) : Prop :=
  (container.tags.get lifecycleTag = lrpLifecycle ∧
    (container.state = .reserved ∨ container.state = .initializing ∨
      container.state = .created) ∧
    ∃ err, Claimed C container h (some err) ∧
      C.ext.convertError err = .actualLRPCannotBeClaimed) ∨
  (container.tags.get lifecycleTag = taskLifecycle ∧
    ∃ changed err, TaskStarted C container h (changed, some err) ∧
      (C.ext.convertError err = .invalidStateTransition ∨
        C.ext.convertError err = .resourceNotFound)) ∨
  ∃ req err, (⟨.runContainer req, some err⟩ : RepEvent) ∈ h

/-- A container that is not completed is stopped after a refused start, and only from the
state running: what is not running yet is deleted instead. -/
def MayStop (h : List RepEvent) : Prop :=
  container.tags.get lifecycleTag = lrpLifecycle ∧ container.state = .running ∧
    ∃ err, Started C container h (some err) ∧
      C.ext.convertError err = .actualLRPCannotBeStarted

/-- After the calls `h`, the call `c` may be made. A completed container may be stopped and
deleted without further reason, since its work is over. -/
def Permitted (h : List RepEvent) (c : Call) : Prop :=
  Targets C container c ∧
    match c with
    | .runContainer _ => MayRun C container h
    | .deleteContainer _ => container.state ≠ .completed → MayDelete C container h
    | .stopContainer _ => container.state ≠ .completed → MayStop C container h
    | _ => True

end

/-- The replies to expect: the cell is not evacuating, and a task fetched by its guid
has that guid. -/
def OrdinaryReply : (c : Call) → Reply c → Prop
  | .evacuating, r => r = false
  | .taskByGuid guid, .ok task => task.taskGuid = guid
  | _, _ => True

/-- The specification: every call is permitted by the history. The ghost state is the history
itself, so `Spec.after_history` turns a proof about `wp` into one about prefixes of traces. -/
abbrev causes (C : Cell) (container : Container) : Spec Call Reply (List RepEvent) :=
  Spec.history (Permitted C container) OrdinaryReply

/-! ## The processors keep to it

One rule for each function of the two processors, from the innermost outwards. The rules are
proved from any history `h`, because a function does not know what was called before it; the
reasons it needs are found in what it has added itself or are handed to it as hypotheses. -/

section

variable {C : Cell} {container : Container} {h : List RepEvent}

/-- Running: on failure the container goes, and the failed run, which is the last event of the
history by then, is the reason. -/
theorem wp_runContainer_causes {req : Executor.RunRequest}
    {post : List RepEvent → Bool → Prop} (hguid : req.guid = container.guid)
    (hrun : MayRun C container h) (hpost : ∀ h' ok, post h' ok) :
    (Delegate.runContainer req).wp (causes C container) post h := by
  rw [Delegate.wp_runContainer]
  refine ⟨⟨hguid, hrun⟩, fun _ => hpost _ _, ?_⟩
  intro err _
  rw [Delegate.wp_deleteContainer]
  refine ⟨⟨hguid, fun _ => Or.inr (Or.inr ⟨req, err, ?_⟩)⟩, fun _ _ => hpost _ _⟩
  exact List.mem_append_right _ (List.mem_singleton.mpr rfl)

/-- Claiming: a refused claim is the reason for the deletion. Three states share this rule,
since the code claims a container that is reserved, initializing or created. -/
theorem wp_claim_causes {lrp : LRPContainer} {post : List RepEvent → Bool → Prop}
    (hlife : container.tags.get lifecycleTag = lrpLifecycle)
    (hstate : container.state = .reserved ∨ container.state = .initializing ∨
      container.state = .created)
    (hd : decodeLRPContainer C container = .ok lrp)
    (hok : ∀ h', Claimed C container h' none → post h' true)
    (hno : ∀ h', post h' false) :
    (Ordinary.claimLRPContainer C lrp).wp (causes C container) post h := by
  refine Ordinary.wp_claimLRPContainer.mpr
    ⟨⟨⟨lrp, hd, rfl, rfl, rfl⟩, trivial⟩, fun _ => hok _ ⟨lrp, hd, ?_⟩, fun err _ => ?_⟩
  · exact List.mem_append_right _ (List.mem_singleton.mpr rfl)
  · by_cases hc : C.ext.convertError err = .actualLRPCannotBeClaimed
    · rw [if_pos hc, Delegate.wp_deleteContainer, container_of_decode hd]
      refine ⟨⟨rfl, fun _ => Or.inl ⟨hlife, hstate, err, ⟨lrp, hd, ?_⟩, hc⟩⟩, fun _ _ => hno _⟩
      exact List.mem_append_right _ (List.mem_singleton.mpr rfl)
    · rw [if_neg hc]
      exact hno _

/-- A reserved container is claimed and run. Without a desired LRP, or without a request for
it, nothing more is done; if the run fails, the record is removed, which needs no permission. -/
theorem wp_processReserved_causes {lrp : LRPContainer}
    (hlife : container.tags.get lifecycleTag = lrpLifecycle) (hstate : container.state = .reserved)
    (hd : decodeLRPContainer C container = .ok lrp) :
    (Ordinary.processReservedContainer C lrp).wp (causes C container) (fun _ _ => True) h := by
  rw [Ordinary.processReservedContainer, Prog.wp_bind]
  refine wp_claim_causes hlife (Or.inl hstate) hd (fun h' hclaim => ?_) fun h' => trivial
  simp only [if_pos, Bbs.desiredLRPByProcessGuid, Prog.call_bind, Prog.ret_bind, Prog.wp_call]
  refine ⟨⟨⟨lrp, hd, rfl⟩, trivial⟩, ?_⟩
  intro r _
  cases r with
  | error err => trivial
  | ok desired =>
    rcases hreq : newRunRequestFromDesiredLRP C.ext lrp.container.guid desired lrp.key
      lrp.instanceKey with err | runReq
    · simp only [hreq]
      trivial
    · simp only [hreq]
      have hguid : runReq.guid = container.guid := by
        rw [(guid_ports_of_newRunRequestFromDesiredLRP hreq).1, container_of_decode hd]
      -- the claim is still in the history after the fetch of the desired LRP
      have hclaim' : ∀ e, Claimed C container (h' ++ [e]) none := fun e => by
        obtain ⟨lrp', hd', hmem⟩ := hclaim
        exact ⟨lrp', hd', List.mem_append_left _ hmem⟩
      refine Prog.wp_bind.mpr (wp_runContainer_causes hguid (Or.inl ⟨hlife, hstate, hclaim' _⟩)
        fun h'' ok => ?_)
      cases ok with
      | true => trivial
      | false => exact ⟨⟨⟨lrp, hd, rfl, rfl, rfl⟩, trivial⟩, fun _ _ => trivial⟩

/-- A running container is reported; a refusal of the listed type stops it, and any other
error leaves it as it is. -/
theorem wp_processRunning_causes {lrp : LRPContainer}
    (hlife : container.tags.get lifecycleTag = lrpLifecycle) (hstate : container.state = .running)
    (hd : decodeLRPContainer C container = .ok lrp) :
    (Ordinary.processRunningContainer C lrp).wp (causes C container) (fun _ _ => True) h := by
  unfold Ordinary.processRunningContainer
  split
  · trivial
  · next netInfo _ =>
    simp only [Bbs.startActualLRP, Prog.call_bind, Prog.ret_bind, Prog.wp_call]
    refine ⟨⟨⟨lrp, hd, rfl, rfl⟩, trivial⟩, ?_⟩
    intro r _
    cases r with
    | none => trivial
    | some err =>
      dsimp only
      by_cases hc : C.ext.convertError err = .actualLRPCannotBeStarted
      · rw [if_pos hc, Prog.wp_bind, Delegate.wp_stopContainer, container_of_decode hd]
        refine ⟨⟨rfl, fun _ => ⟨hlife, hstate, err, ⟨lrp, netInfo, hd, ?_⟩, hc⟩⟩,
          fun _ _ => trivial⟩
        exact List.mem_append_right _ (List.mem_singleton.mpr rfl)
      · rw [if_neg hc]
        trivial

/-- A completed container is reported or removed and then deleted in either case; both
branches end in the same deletion, so it is treated once. -/
theorem wp_processCompleted_causes {lrp : LRPContainer} (hstate : container.state = .completed)
    (hd : decodeLRPContainer C container = .ok lrp) :
    (Ordinary.processCompletedContainer lrp).wp (causes C container) (fun _ _ => True) h := by
  have hdelete : ∀ h' : List RepEvent,
      (do let _ ← Delegate.deleteContainer lrp.container.guid; return : RepM Unit).wp
        (causes C container) (fun _ _ => True) h' := fun h' => by
    rw [Prog.wp_bind, Delegate.wp_deleteContainer, container_of_decode hd]
    exact ⟨⟨rfl, fun hne => absurd hstate hne⟩, fun _ _ => trivial⟩
  unfold Ordinary.processCompletedContainer
  split
  · exact ⟨⟨⟨lrp, hd, rfl, rfl, rfl⟩, trivial⟩, fun _ _ => hdelete _⟩
  · exact ⟨⟨⟨lrp, hd, rfl, rfl⟩, trivial⟩, fun _ _ => hdelete _⟩

/-- The ordinary processor: one case for each state of the container. A container whose tags
cannot be decoded is left alone altogether, and so is one in a state the code does not know. -/
theorem wp_ordinary_causes (hlife : container.tags.get lifecycleTag = lrpLifecycle) :
    (Ordinary.process C container).wp (causes C container) (fun _ _ => True) h := by
  unfold Ordinary.process
  rcases hd : decodeLRPContainer C container with err | lrp
  · trivial
  · rcases hstate : container.state with _ | _ | _ | _ | _ | text
    · exact wp_processReserved_causes hlife hstate hd
    · exact Prog.wp_bind.mpr (wp_claim_causes hlife (Or.inr (Or.inl hstate)) hd
        (fun _ _ => trivial) fun _ => trivial)
    · exact Prog.wp_bind.mpr (wp_claim_causes hlife (Or.inr (Or.inr hstate)) hd
        (fun _ _ => trivial) fun _ => trivial)
    · exact wp_processRunning_causes hlife hstate hd
    · exact wp_processCompleted_causes hstate hd
    · trivial

/-- Starting a task: a refused start is the reason for the deletion, if the refusal is one of
the two types that say the task is not to be started any more. -/
theorem wp_startTask_causes {post : List RepEvent → Bool → Prop}
    (hlife : container.tags.get lifecycleTag = taskLifecycle)
    (hok : ∀ h', TaskStarted C container h' (true, none) → post h' true)
    (hno : ∀ h', post h' false) :
    (TaskProcessor.startTask C container.guid).wp (causes C container) post h := by
  refine TaskProcessor.wp_startTask.mpr
    ⟨⟨⟨rfl, rfl⟩, trivial⟩, fun changed _ => ?_, fun changed err _ => ?_⟩
  · cases changed with
    | false => exact hno _
    | true => exact hok _ (List.mem_append_right _ (List.mem_singleton.mpr rfl))
  · split
    · next hc =>
      rw [Delegate.wp_deleteContainer]
      refine ⟨⟨rfl, fun _ => Or.inr (Or.inl ⟨hlife, changed, err, ?_, hc⟩)⟩, fun _ _ => hno _⟩
      exact List.mem_append_right _ (List.mem_singleton.mpr rfl)
    · exact hno _

/-- An active task container is run only with its own committed start in the history; the
request goes by the guid of the fetched task, which by the assumption on replies is the
container's. -/
theorem wp_processActive_causes (hlife : container.tags.get lifecycleTag = taskLifecycle) :
    (TaskProcessor.processActiveContainer C container).wp (causes C container)
      (fun _ _ => True) h := by
  apply TaskProcessor.wp_processActiveContainer
  refine wp_startTask_causes hlife (fun h' hstart _ => ⟨⟨rfl, trivial⟩, ?_⟩) fun h' => nofun
  intro task runReq hr hreq
  have hguid : runReq.guid = container.guid := (guid_of_newRunRequestFromTask hreq).trans hr
  exact wp_runContainer_causes hguid (Or.inr ⟨hlife, List.mem_append_left _ hstart⟩)
    fun h'' ok _ => ⟨rfl, trivial⟩

/-- Reporting a completion speaks to the BBS only. -/
theorem wp_reportCompletion_causes {result : List UInt8}
    {post : List RepEvent → Unit → Prop} (hpost : ∀ h', post h' ()) :
    (TaskProcessor.reportCompletion C container result).wp (causes C container) post h := by
  refine TaskProcessor.wp_reportCompletion.mpr
    ⟨⟨⟨rfl, rfl⟩, trivial⟩, fun _ => hpost _, fun err _ => ?_⟩
  split
  · rw [TaskProcessor.wp_failTask]
    exact ⟨⟨rfl, trivial⟩, fun _ _ => hpost _⟩
  · exact hpost _

/-- Completing a task speaks to the BBS only as well, apart from fetching the result file from
the container. -/
theorem wp_completeTask_causes {post : List RepEvent → Unit → Prop} (hpost : ∀ h', post h' ()) :
    (TaskProcessor.completeTask C container).wp (causes C container) post h := by
  refine TaskProcessor.wp_completeTask ?_ ?_ fun _ _ => wp_reportCompletion_causes hpost
  · exact fun _ => ⟨⟨⟨rfl, rfl⟩, trivial⟩, ⟨trivial, trivial⟩, ⟨trivial, trivial⟩⟩
  · intro h'
    rw [TaskProcessor.wp_failTask]
    exact ⟨⟨rfl, trivial⟩, fun _ _ => hpost _⟩

/-- The task processor: active, completed, or a state in which nothing is done. -/
theorem wp_task_causes (hlife : container.tags.get lifecycleTag = taskLifecycle) :
    (TaskProcessor.process C container).wp (causes C container) (fun _ _ => True) h := by
  rcases TaskProcessor.process_cases C container with ⟨-, hprocess⟩ | ⟨hstate, hprocess⟩ | hprocess
  · rw [hprocess]
    exact wp_processActive_causes hlife
  · rw [hprocess]
    refine Prog.wp_bind.mpr (wp_completeTask_causes fun h' => ?_)
    rw [Prog.wp_bind, Delegate.wp_deleteContainer]
    exact ⟨⟨rfl, fun hne => absurd hstate hne⟩, fun _ _ => trivial⟩
  · rw [hprocess]
    trivial

end

/-- **Containers go only for cause.** Once the executor has returned the container,
and while the cell is not evacuating, every further call of the operation is about
that container and is permitted by the calls before it. -/
theorem executeContainer_permitted (C : Cell) (guid : String) (container : Container)
    (t : List RepEvent)
    (ht : (Operation.execute C (.container guid)).Trace
      (⟨.getContainer guid, .ok container⟩ :: t) ())
    (hans : ∀ e ∈ t, OrdinaryReply e.1 e.2) (t₁ : List RepEvent) (c : Call) (r : Reply c)
    (t₂ : List RepEvent) (hsplit : t = t₁ ++ ⟨c, r⟩ :: t₂) :
    Permitted C container t₁ c := by
  simp only [Operation.execute, executeContainer, Delegate.getContainer, Client.getContainer,
    Prog.call_bind, Prog.ret_bind, Prog.trace_call] at ht
  obtain ⟨reply, t', heq, ht⟩ := ht
  injection heq with hevent htail
  subst htail
  cases hevent
  simp only [Prog.pure_eq, Prog.ret_bind] at ht
  have hans' : (causes C container).Answered [] t := (Spec.answered_history _ _).mpr hans
  by_cases hlrp : container.tags.get lifecycleTag = lrpLifecycle
  · rw [if_pos hlrp] at ht
    have hwp : (lrpProcess C container).wp (causes C container) (fun _ _ => True) [] := by
      refine ⟨⟨trivial, trivial⟩, ?_⟩
      intro isEvacuating hr
      have hr' : isEvacuating = false := hr
      subst hr'
      exact wp_ordinary_causes hlrp
    -- soundness gives the permission with the whole history, which here begins empty
    have hpre := (Prog.wp_sound hwp ht hans').2 t₁ c r t₂ hsplit
    rwa [Spec.after_history, List.nil_append] at hpre
  · rw [if_neg hlrp] at ht
    by_cases htask : container.tags.get lifecycleTag = taskLifecycle
    · rw [if_pos htask] at ht
      have hpre := (Prog.wp_sound (wp_task_causes htask) ht hans').2 t₁ c r t₂ hsplit
      rwa [Spec.after_history, List.nil_append] at hpre
    · rw [if_neg htask] at ht
      obtain ⟨rfl, -⟩ := Prog.trace_ret.mp ht
      exact absurd hsplit (by simp)

/-! ### A concrete refusal

The claim for a reserved container is refused, and the container is deleted. -/

/-- An LRP to place, with index 3 so that the index shows in the claim. -/
def sampleLRP : LRP := ⟨⟨"process", 3, "domain"⟩, ⟨[], [], ""⟩, ⟨128, 256, 10⟩⟩

/-- Its container, just allocated: reserved, and tagged by the rep itself. -/
def sampleReserved : Container := (lrpRequest sampleLRP "guid" "").container

/-- The refusal, an error of the one type that counts. -/
def sampleRefusal : Err := .models .actualLRPCannotBeClaimed "refused"

/-- What is done with the container when its claim is refused: one deletion and nothing else. -/
def sampleRefusalTrace : List RepEvent :=
  [⟨.evacuating, false⟩, ⟨.claimActualLRP "process" 3 ⟨"guid", "cell"⟩, some sampleRefusal⟩,
    ⟨.deleteContainer "guid", none⟩]

/-- The deletion is permitted by the two calls before it. -/
theorem sampleReserved_delete_permitted : Permitted Cell.sample sampleReserved
    [⟨.evacuating, false⟩, ⟨.claimActualLRP "process" 3 ⟨"guid", "cell"⟩, some sampleRefusal⟩]
    (.deleteContainer "guid") := by
  refine executeContainer_permitted Cell.sample "guid" sampleReserved sampleRefusalTrace ?_ ?_
    _ _ none [] rfl
  · exact .call _ (.call _ (.call _ (.call _ (.ret _))))
  · intro e he
    simp only [sampleRefusalTrace, List.mem_cons, List.not_mem_nil, or_false] at he
    rcases he with rfl | rfl | rfl
    · rfl
    · trivial
    · trivial

end CellRep
