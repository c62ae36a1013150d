import CellRep.Delegate

/-!
# The processors

`generator/internal`: what is done with one container, given its state. An LRP
container goes to the ordinary or to the evacuation processor, depending on what the
evacuation reporter says at that moment; a task container goes to the task processor.

The functions that read a BBS error have their rules for ghost specifications next to
them, in terms of the calls they make.
-/

namespace CellRep

open Models (ActualLRPKey ActualLRPInstanceKey)
open Executor (Container)

universe u

variable {γ : Type u} {S : Spec Call Reply γ} {g : γ}

/-- `lrpContainer`: a container with its decoded keys. The processors carry the three along,
so that the keys are decoded once. -/
structure LRPContainer where
  key : ActualLRPKey
  instanceKey : ActualLRPInstanceKey
  container : Container

/-- Decoding both keys, as the two LRP processors do first. A container with tags that cannot
be decoded is logged and left alone, in every state. -/
def decodeLRPContainer (C : Cell) (container : Container) : Except Err LRPContainer :=
  match actualLRPKeyFromTags C.ext container.tags with
  | .error err => .error err
  | .ok lrpKey =>
    match actualLRPInstanceKeyFromContainer C.ext container C.cellID with
    | .error err => .error err
    | .ok instanceKey => .ok ⟨lrpKey, instanceKey, container⟩

/-! ## The ordinary LRP processor

Outside an evacuation the rep makes the BBS's record follow the container: a container that is
coming up is claimed, one that runs is started, one that has ended is removed or crashed.
Where the BBS refuses, the record belongs to somebody else, and the container goes. -/

namespace Ordinary

/-- `claimLRPContainer`: a refused claim deletes the container, any other error leaves it
alone. An error that is no refusal says nothing about the record, and the next sync claims
again. -/
def claimLRPContainer (C : Cell) (lrp : LRPContainer) : RepM Bool := do
  match ← Bbs.claimActualLRP lrp.key.processGuid lrp.key.index.toInt64 lrp.instanceKey with
  | some err =>
    if C.ext.convertError err = .actualLRPCannotBeClaimed then
      let _ ← Delegate.deleteContainer lrp.container.guid
      return false
    else
      return false
  | none => return true

/-- The rule for a claim, in terms of its three outcomes. -/
theorem wp_claimLRPContainer {C : Cell} {lrp : LRPContainer} {post : γ → Bool → Prop} :
    let claim := Call.claimActualLRP lrp.key.processGuid lrp.key.index.toInt64 lrp.instanceKey
    (claimLRPContainer C lrp).wp S post g ↔ S.pre g claim ∧
      (S.ans g claim none → post (S.next g claim none) true) ∧
      ∀ err : Err, S.ans g claim (some err) →
        if C.ext.convertError err = .actualLRPCannotBeClaimed then
          (Delegate.deleteContainer lrp.container.guid).wp S (fun g _ => post g false)
            (S.next g claim (some err))
        else post (S.next g claim (some err)) false := by
  intro claim
  simp only [claimLRPContainer, Bbs.claimActualLRP, Prog.call_bind, Prog.ret_bind, Prog.wp_call]
  -- the reply is split once for each direction; only one error leads to the deletion
  refine and_congr_right fun _ => ⟨fun h => ⟨h none, fun err herr => ?_⟩, fun h r hr => ?_⟩
  · simpa only [Prog.wp_ite, Prog.wp_bind, Prog.pure_eq, Prog.wp_ret] using h (some err) herr
  · cases r with
    | none => exact h.1 hr
    | some err => simpa only [Prog.wp_ite, Prog.wp_bind, Prog.pure_eq, Prog.wp_ret] using h.2 err hr

/-- `processReservedContainer`: claim the record, fetch what is wanted, and run it. If there
is no run request to be made the container stays reserved and the claim stays as well; if the
run is refused, the record is removed again. -/
def processReservedContainer (C : Cell) (lrp : LRPContainer) : RepM Unit := do
  let ok ← claimLRPContainer C lrp
  if ok then
    match ← Bbs.desiredLRPByProcessGuid lrp.key.processGuid with
    | .error _ => return
    | .ok desired =>
      match newRunRequestFromDesiredLRP C.ext lrp.container.guid desired lrp.key
          lrp.instanceKey with
      | .error _ => return
      | .ok runReq =>
        let ok ← Delegate.runContainer runReq
        if ok then return
        else
          let _ ← Bbs.removeActualLRP lrp.key.processGuid lrp.key.index.toInt64 lrp.instanceKey
          return
  else return

/-- `processInitializingContainer`: the claim is repeated, in case it was lost. -/
def processInitializingContainer (C : Cell) (lrp : LRPContainer) : RepM Unit := do
  let _ ← claimLRPContainer C lrp
  return

/-- `processCreatedContainer`: the claim is repeated here too. -/
def processCreatedContainer (C : Cell) (lrp : LRPContainer) : RepM Unit := do
  let _ ← claimLRPContainer C lrp
  return

/-- `processRunningContainer`: a refused start stops the container, any other error leaves it
alone. The container is not deleted before it has completed. -/
def processRunningContainer (C : Cell) (lrp : LRPContainer) : RepM Unit := do
  match actualLRPNetInfoFromContainer C.ext lrp.container with
  | .error _ => return
  | .ok netInfo =>
    match ← Bbs.startActualLRP lrp.key lrp.instanceKey netInfo with
    | none => return
    | some err =>
      if C.ext.convertError err = .actualLRPCannotBeStarted then
        let _ ← Delegate.stopContainer lrp.container.guid
        return
      else return

/-- `processCompletedContainer`: the container goes whatever the BBS answers. A container that
was asked to stop takes its record with it; any other end is a crash, with its reason. -/
def processCompletedContainer (lrp : LRPContainer) : RepM Unit := do
  if lrp.container.runResult.stopped then
    let _ ← Bbs.removeActualLRP lrp.key.processGuid lrp.key.index.toInt64 lrp.instanceKey
    let _ ← Delegate.deleteContainer lrp.container.guid
    return
  else
    let _ ← Bbs.crashActualLRP lrp.key lrp.instanceKey lrp.container.runResult.failureReason
    let _ ← Delegate.deleteContainer lrp.container.guid
    return

/-- `ordinaryLRPProcessor.Process`: one function for each state. A state that is not known is
logged. -/
def process (C : Cell) (container : Container) : RepM Unit :=
  match decodeLRPContainer C container with
  | .error _ => return
  | .ok lrp =>
    match container.state with
    | .reserved => processReservedContainer C lrp
    | .initializing => processInitializingContainer C lrp
    | .created => processCreatedContainer C lrp
    | .running => processRunningContainer C lrp
    | .completed => processCompletedContainer lrp
    | .invalid _ => return

end Ordinary

/-! ## The evacuation LRP processor

During an evacuation the aim is the opposite one: to get rid of the containers without taking
an instance down before another cell has it. Each state has a call of its own by which the BBS
is told, and only for a running container does the answer decide anything. -/

namespace Evacuation

/-- `evacuateClaimedLRPContainer`: nothing runs yet, so the instance is given back and the
container deleted at once, whatever the BBS answers. -/
def evacuateClaimedLRPContainer (lrp : LRPContainer) : RepM Unit := do
  let _ ← Bbs.evacuateClaimedActualLRP lrp.key lrp.instanceKey
  let _ ← Delegate.deleteContainer lrp.container.guid
  return

/-- `processReservedContainer`: a container that does not run yet is given back. -/
def processReservedContainer (lrp : LRPContainer) : RepM Unit := evacuateClaimedLRPContainer lrp

/-- `processInitializingContainer`: given back as a reserved one is. -/
def processInitializingContainer (lrp : LRPContainer) : RepM Unit :=
  evacuateClaimedLRPContainer lrp

/-- `processCreatedContainer`: given back as a reserved one is. -/
def processCreatedContainer (lrp : LRPContainer) : RepM Unit := evacuateClaimedLRPContainer lrp

/-- `processRunningContainer`: only the `keepContainer` flag decides. The error that comes
with it is logged and has no other effect, so a failed call keeps the container exactly if its
flag says so. -/
def processRunningContainer (C : Cell) (lrp : LRPContainer) : RepM Unit := do
  match actualLRPNetInfoFromContainer C.ext lrp.container with
  | .error _ => return
  | .ok netInfo =>
    let (keepContainer, _) ←
      Bbs.evacuateRunningActualLRP lrp.key lrp.instanceKey netInfo C.evacuationTTLInSeconds
    if keepContainer then return
    else
      let _ ← Delegate.deleteContainer lrp.container.guid
      return

/-- `processCompletedContainer`: like the ordinary one, with the calls of an evacuation in
place of the removal and the crash. -/
def processCompletedContainer (lrp : LRPContainer) : RepM Unit := do
  if lrp.container.runResult.stopped then
    let _ ← Bbs.evacuateStoppedActualLRP lrp.key lrp.instanceKey
    let _ ← Delegate.deleteContainer lrp.container.guid
    return
  else
    let _ ← Bbs.evacuateCrashedActualLRP lrp.key lrp.instanceKey
      lrp.container.runResult.failureReason
    let _ ← Delegate.deleteContainer lrp.container.guid
    return

/-- `evacuationLRPProcessor.Process`: the states and the treatment of undecodable containers
are those of the ordinary processor. -/
def process (C : Cell) (container : Container) : RepM Unit :=
  match decodeLRPContainer C container with
  | .error _ => return
  | .ok lrp =>
    match container.state with
    | .reserved => processReservedContainer lrp
    | .initializing => processInitializingContainer lrp
    | .created => processCreatedContainer lrp
    | .running => processRunningContainer C lrp
    | .completed => processCompletedContainer lrp
    | .invalid _ => return

end Evacuation

/-- `lrpProcessor.Process`: one look at the evacuation context decides which processor handles
the container this time. -/
def lrpProcess (C : Cell) (container : Container) : RepM Unit := do
  let isEvacuating ← evacuating
  if isEvacuating then Evacuation.process C container
  else Ordinary.process C container

/-! ### What the LRP processors can call

Whatever the replies, neither processor touches another container or another record than those
of the container it was given. Later modules use this confinement instead of stepping through
eleven functions again. -/

/-- The calls either LRP processor can make for a container: on its guid, and on the keys
decoded from its tags. Reading the desired LRP is allowed for any process, as it changes
nothing. -/
def LRPCall (C : Cell) (container : Container) : Call → Prop
  | .evacuating => True
  | .runContainer req => req.guid = container.guid
  | .stopContainer guid => guid = container.guid
  | .deleteContainer guid => guid = container.guid
  | .desiredLRPByProcessGuid _ => True
  | .claimActualLRP processGuid index instanceKey =>
    ∃ lrp, decodeLRPContainer C container = .ok lrp ∧ processGuid = lrp.key.processGuid ∧
      index = lrp.key.index.toInt64 ∧ instanceKey = lrp.instanceKey
  | .removeActualLRP processGuid index instanceKey =>
    ∃ lrp, decodeLRPContainer C container = .ok lrp ∧ processGuid = lrp.key.processGuid ∧
      index = lrp.key.index.toInt64 ∧ instanceKey = lrp.instanceKey
  | .startActualLRP key instanceKey _ | .crashActualLRP key instanceKey _
  | .evacuateClaimedActualLRP key instanceKey | .evacuateRunningActualLRP key instanceKey _ _
  | .evacuateStoppedActualLRP key instanceKey | .evacuateCrashedActualLRP key instanceKey _ =>
    ∃ lrp, decodeLRPContainer C container = .ok lrp ∧ key = lrp.key ∧
      instanceKey = lrp.instanceKey
  | _ => False

section

variable {C : Cell} {container : Container} {lrp : LRPContainer}

/-- Both keys are decoded, and the container is carried along. The equivalence takes the two
nested matches apart once. -/
theorem decodeLRPContainer_eq_ok : decodeLRPContainer C container = .ok lrp ↔
    actualLRPKeyFromTags C.ext container.tags = .ok lrp.key ∧
      actualLRPInstanceKeyFromContainer C.ext container C.cellID = .ok lrp.instanceKey ∧
      lrp.container = container := by
  obtain ⟨lrpKey, instanceKey, lrpContainer⟩ := lrp
  rw [decodeLRPContainer]
  cases actualLRPKeyFromTags C.ext container.tags with
  | error err => simp
  | ok lrpKey' =>
    cases actualLRPInstanceKeyFromContainer C.ext container C.cellID with
    | error err => simp
    | ok instanceKey' => simp [eq_comm]

/-- The decoded container is the one that was given, so calls on its guid are calls on that
guid. -/
theorem container_of_decode (hd : decodeLRPContainer C container = .ok lrp) :
    lrp.container = container :=
  (decodeLRPContainer_eq_ok.mp hd).2.2

/-- The decoded instance key names the cell and the instance guid of the tags; the cell is
always this one, whatever cell the container was allocated on. -/
theorem instanceKey_of_decode (hd : decodeLRPContainer C container = .ok lrp) :
    lrp.instanceKey = ⟨container.tags.get instanceGuidTag, C.cellID⟩ :=
  eq_of_actualLRPInstanceKeyFromContainer (decodeLRPContainer_eq_ok.mp hd).2.1

/-- Deleting the container itself is one of the calls of its processor. -/
theorem deleteContainer_only : (Delegate.deleteContainer container.guid).Only
    (LRPCall C container) := by
  refine ⟨rfl, ?_⟩
  intro r
  cases r <;> trivial

/-- A claim is for the decoded keys, and the deletion after a refusal is of the container. -/
theorem claimLRPContainer_only (hd : decodeLRPContainer C container = .ok lrp) :
    (Ordinary.claimLRPContainer C lrp).Only (LRPCall C container) := by
  simp only [Ordinary.claimLRPContainer, Bbs.claimActualLRP, Prog.call_bind, Prog.ret_bind,
    Prog.only_call]
  refine ⟨⟨lrp, hd, rfl, rfl, rfl⟩, ?_⟩
  intro r
  cases r with
  | none => trivial
  | some err =>
    dsimp only
    rw [container_of_decode hd]
    split
    · exact deleteContainer_only.bind fun _ => trivial
    · trivial

/-- The longest of them. The request that is run is for this container, because its guid was
passed on when the request was made. -/
theorem processReservedContainer_only (hd : decodeLRPContainer C container = .ok lrp) :
    (Ordinary.processReservedContainer C lrp).Only (LRPCall C container) := by
  apply (claimLRPContainer_only hd).bind
  intro ok
  cases ok with
  | false => trivial
  | true =>
    simp only [if_pos, Bbs.desiredLRPByProcessGuid, Prog.call_bind, Prog.ret_bind,
      Prog.only_call]
    refine ⟨trivial, ?_⟩
    intro r
    cases r with
    | error err => trivial
    | ok desired =>
      dsimp only
      split
      · trivial
      · -- the request carries the guid it was made with, so a failed run deletes this container
        next runReq hreq =>
        have hguid : runReq.guid = container.guid := by
          rw [(guid_ports_of_newRunRequestFromDesiredLRP hreq).1, container_of_decode hd]
        refine Prog.Only.bind ?_ fun ok => ?_
        · rw [Delegate.runContainer]
          simp only [Client.runContainer, Prog.call_bind, Prog.ret_bind, Prog.only_call]
          refine ⟨hguid, ?_⟩
          intro r
          cases r with
          | none => trivial
          | some err =>
            dsimp only
            rw [hguid]
            exact deleteContainer_only.bind fun _ => trivial
        · cases ok with
          | true => trivial
          | false => exact ⟨⟨lrp, hd, rfl, rfl, rfl⟩, fun _ => trivial⟩

/-- A start is for the decoded keys, and the stop after a refusal is of the container. -/
theorem processRunningContainer_only (hd : decodeLRPContainer C container = .ok lrp) :
    (Ordinary.processRunningContainer C lrp).Only (LRPCall C container) := by
  unfold Ordinary.processRunningContainer
  split
  · trivial
  · simp only [Bbs.startActualLRP, Prog.call_bind, Prog.ret_bind, Prog.only_call]
    refine ⟨⟨lrp, hd, rfl, rfl⟩, ?_⟩
    intro r
    cases r with
    | none => trivial
    | some err =>
      dsimp only
      rw [container_of_decode hd]
      split
      · refine Prog.Only.bind ⟨rfl, fun r => ?_⟩ fun _ => trivial
        cases r <;> trivial
      · trivial

/-- A completed container has its own record removed or crashed, and is deleted either way. -/
theorem processCompletedContainer_only (hd : decodeLRPContainer C container = .ok lrp) :
    (Ordinary.processCompletedContainer lrp).Only (LRPCall C container) := by
  unfold Ordinary.processCompletedContainer
  rw [container_of_decode hd]
  split
  · exact ⟨⟨lrp, hd, rfl, rfl, rfl⟩, fun _ => deleteContainer_only.bind fun _ => trivial⟩
  · exact ⟨⟨lrp, hd, rfl, rfl⟩, fun _ => deleteContainer_only.bind fun _ => trivial⟩

/-- The ordinary processor, state by state; two states have the claim alone. -/
theorem ordinary_process_only : (Ordinary.process C container).Only (LRPCall C container) := by
  unfold Ordinary.process
  rcases hd : decodeLRPContainer C container with err | lrp
  · trivial
  · cases container.state with
    | reserved => exact processReservedContainer_only hd
    | initializing => exact (claimLRPContainer_only hd).bind fun _ => trivial
    | created => exact (claimLRPContainer_only hd).bind fun _ => trivial
    | running => exact processRunningContainer_only hd
    | completed => exact processCompletedContainer_only hd
    | invalid _ => trivial

/-- Giving a container back is one call on its keys and the deletion. -/
theorem evacuateClaimedLRPContainer_only (hd : decodeLRPContainer C container = .ok lrp) :
    (Evacuation.evacuateClaimedLRPContainer lrp).Only (LRPCall C container) := by
  rw [Evacuation.evacuateClaimedLRPContainer, container_of_decode hd]
  exact ⟨⟨lrp, hd, rfl, rfl⟩, fun _ => deleteContainer_only.bind fun _ => trivial⟩

/-- The evacuation processor, state by state; three of the states share one function. -/
theorem evacuation_process_only : (Evacuation.process C container).Only (LRPCall C container) := by
  unfold Evacuation.process
  rcases hd : decodeLRPContainer C container with err | lrp
  · trivial
  · cases container.state with
    | reserved => exact evacuateClaimedLRPContainer_only hd
    | initializing => exact evacuateClaimedLRPContainer_only hd
    | created => exact evacuateClaimedLRPContainer_only hd
    | running =>
      dsimp only [Evacuation.processRunningContainer]
      split
      · trivial
      · simp only [Bbs.evacuateRunningActualLRP, Prog.call_bind, Prog.ret_bind, Prog.only_call]
        refine ⟨⟨lrp, hd, rfl, rfl⟩, ?_⟩
        -- kept or not, what may follow is the deletion of the container
        intro r
        rw [container_of_decode hd]
        split
        · trivial
        · exact deleteContainer_only.bind fun _ => trivial
    | completed =>
      dsimp only [Evacuation.processCompletedContainer]
      rw [container_of_decode hd]
      split
      · exact ⟨⟨lrp, hd, rfl, rfl⟩, fun _ => deleteContainer_only.bind fun _ => trivial⟩
      · exact ⟨⟨lrp, hd, rfl, rfl⟩, fun _ => deleteContainer_only.bind fun _ => trivial⟩
    | invalid _ => trivial

/-- **The LRP processors mind their own container**, evacuating or not, and for any replies. -/
theorem lrpProcess_only : (lrpProcess C container).Only (LRPCall C container) := by
  simp only [lrpProcess, evacuating, Prog.call_bind, Prog.ret_bind, Prog.only_call]
  refine ⟨trivial, ?_⟩
  intro isEvacuating
  split
  · exact evacuation_process_only
  · exact ordinary_process_only

end

/-! ## The task processor

A task is started by the cell that has its container, run, and reported as completed or
failed. There is no separate path for an evacuation: tasks run to their end. -/

namespace TaskProcessor

/-- `TaskCompletionReasonMissingContainer`: the reason of a residual task operation. -/
def reasonMissingContainer : String := "task container does not exist"

/-- `TaskCompletionReasonFailedToRunContainer`: the executor refused the run request. -/
def reasonFailedToRunContainer : String := "failed to run container"

/-- `TaskCompletionReasonInvalidTransition`: the BBS refused the completion. -/
def reasonInvalidTransition : String := "invalid state transition"

/-- `TaskCompletionReasonFailedToFetchResult`: the result file could not be read. -/
def reasonFailedToFetchResult : String := "failed to fetch result"

/-- `startTask`: two refusals delete the container, other errors leave it alone. Without an
error the flag says whether it was this call that started the task; if it was not, nothing is
run. -/
def startTask (C : Cell) (guid : String) : RepM Bool := do
  let (changed, err) ← Bbs.startTask guid C.cellID
  match err with
  | some err =>
    match C.ext.convertError err with
    | .invalidStateTransition =>
      let _ ← Delegate.deleteContainer guid
      return false
    | .resourceNotFound =>
      let _ ← Delegate.deleteContainer guid
      return false
    | _ => return false
  | none => return changed

/-- A start that changed nothing, was refused, or failed otherwise is not a start: the result
is `true` exactly for the reply that changed the task without an error. -/
theorem trace_startTask {C : Cell} {guid : String} {t : List RepEvent} {ok : Bool}
    (ht : (startTask C guid).Trace t ok) :
    ∃ r : Bool × Option Err, (ok = true ↔ r = (true, none)) ∧
      (t = [⟨.startTask guid C.cellID, r⟩] ∨
        ok = false ∧ ∃ d : Option Err,
          t = [⟨.startTask guid C.cellID, r⟩, ⟨.deleteContainer guid, d⟩]) := by
  simp only [startTask, Bbs.startTask, Prog.call_bind, Prog.ret_bind, Prog.trace_call] at ht
  obtain ⟨⟨changed, err⟩, t, rfl, ht⟩ := ht
  cases err with
  | none =>
    obtain ⟨rfl, rfl⟩ := Prog.trace_ret.mp ht
    exact ⟨(ok, none), by simp, Or.inl rfl⟩
  | some err =>
    -- after a refusal of either kind the container is deleted
    have hrefused : ∀ t, (do let _ ← Delegate.deleteContainer guid; return false :
        RepM Bool).Trace t ok → ok = false ∧ ∃ d, t = [⟨.deleteContainer guid, d⟩] := by
      intro t ht
      obtain ⟨t₁, t₂, ok', rfl, hdel, hret⟩ := Prog.trace_bind.mp ht
      obtain ⟨d, rfl, -⟩ := Delegate.trace_deleteContainer.mp hdel
      obtain ⟨rfl, rfl⟩ := Prog.trace_ret.mp hret
      exact ⟨rfl, d, rfl⟩
    dsimp only at ht
    split at ht
    · obtain ⟨rfl, d, rfl⟩ := hrefused t ht
      exact ⟨(changed, some err), by simp, Or.inr ⟨rfl, d, rfl⟩⟩
    · obtain ⟨rfl, d, rfl⟩ := hrefused t ht
      exact ⟨(changed, some err), by simp, Or.inr ⟨rfl, d, rfl⟩⟩
    · obtain ⟨rfl, rfl⟩ := Prog.trace_ret.mp ht
      exact ⟨(changed, some err), by simp, Or.inl rfl⟩

/-- The rule for a start. Both refusals lead to the same deletion, so they are one case here. -/
theorem wp_startTask {C : Cell} {guid : String} {post : γ → Bool → Prop} :
    let start := Call.startTask guid C.cellID
    (startTask C guid).wp S post g ↔ S.pre g start ∧
      (∀ changed : Bool, S.ans g start (changed, none) →
        post (S.next g start (changed, none)) changed) ∧
      ∀ (changed : Bool) (err : Err), S.ans g start (changed, some err) →
        if C.ext.convertError err = .invalidStateTransition ∨
            C.ext.convertError err = .resourceNotFound then
          (Delegate.deleteContainer guid).wp S (fun g _ => post g false)
            (S.next g start (changed, some err))
        else post (S.next g start (changed, some err)) false := by
  intro start
  simp only [startTask, Bbs.startTask, Prog.call_bind, Prog.ret_bind, Prog.wp_call]
  refine and_congr_right fun _ => ⟨fun h => ⟨fun changed => h (changed, none),
    fun changed err herr => ?_⟩, fun h r hr => ?_⟩
  · have hwp := h (changed, some err) herr
    -- five types of error, of which two are refusals
    rcases hc : C.ext.convertError err with _ | _ | _ | _ | n <;>
      simpa [hc, Prog.wp_bind] using hwp
  · obtain ⟨changed, err⟩ := r
    cases err with
    | none => exact h.1 changed hr
    | some err =>
      have hwp := h.2 changed err hr
      rcases hc : C.ext.convertError err with _ | _ | _ | _ | n <;>
        simpa [hc, Prog.wp_bind] using hwp

/-- `failTask`: an error is only logged, so a task may remain running although the rep has
given up on it. -/
def failTask (guid reason : String) : RepM Unit := do
  let _ ← Bbs.failTask guid reason
  return

/-- The rule for a failure, whose reply nobody looks at. -/
@[simp] theorem wp_failTask {guid reason : String} {post : γ → Unit → Prop} :
    (failTask guid reason).wp S post g ↔ S.pre g (.failTask guid reason) ∧
      ∀ r : Option Err, S.ans g (.failTask guid reason) r →
        post (S.next g (.failTask guid reason) r) () := by
  simp [failTask]

/-- `processActiveContainer`: start the task, fetch it, run it. If the task cannot be fetched,
or no run request can be made of it, the function returns although the BBS holds the task as
running by now. -/
def processActiveContainer (C : Cell) (container : Container) : RepM Unit := do
  let ok ← startTask C container.guid
  if ok then
    match ← Bbs.taskByGuid container.guid with
    | .error _ => return
    | .ok task =>
      match newRunRequestFromTask C.ext task with
      | .error _ => return
      | .ok runReq =>
        let ok ← Delegate.runContainer runReq
        if ok then return
        else failTask container.guid reasonFailedToRunContainer
  else return

/-- Between a start and its end the task is fetched and its request run; what comes back
from a refused run fails the task. -/
theorem wp_processActiveContainer {C : Cell} {container : Container}
    (hstart : (startTask C container.guid).wp S (fun g ok => ok = true →
      S.pre g (.taskByGuid container.guid) ∧
      ∀ task runReq, S.ans g (.taskByGuid container.guid) (.ok task) →
        newRunRequestFromTask C.ext task = .ok runReq →
        (Delegate.runContainer runReq).wp S
          (fun g ok => ok = false →
            S.pre g (.failTask container.guid reasonFailedToRunContainer))
          (S.next g (.taskByGuid container.guid) (.ok task))) g) :
    (processActiveContainer C container).wp S (fun _ _ => True) g := by
  refine Prog.wp_bind.mpr (Prog.wp_mono (fun g ok hstarted => ?_) hstart)
  cases ok with
  | false => trivial
  | true =>
    -- only a start that changed the task gets here
    obtain ⟨hfetch, hrun⟩ := hstarted rfl
    simp only [if_pos, Bbs.taskByGuid, Prog.call_bind, Prog.ret_bind, Prog.wp_call]
    refine ⟨hfetch, ?_⟩
    intro r hr
    cases r with
    | error err => trivial
    | ok task =>
      cases hreq : newRunRequestFromTask C.ext task with
      | error err =>
        simp only [hreq]
        trivial
      | ok runReq =>
        simp only [hreq]
        refine Prog.wp_bind.mpr (Prog.wp_mono (fun g ok hfail => ?_) (hrun task runReq hr hreq))
        cases ok with
        | true => trivial
        | false => exact ⟨hfail rfl, fun _ _ => trivial⟩

/-- The end of `completeTask`: report the result, and fail the task if the BBS refuses the
transition. Other errors are only logged. -/
def reportCompletion (C : Cell) (container : Container) (result : List UInt8) : RepM Unit := do
  match ← Bbs.completeTask container.guid C.cellID container.runResult.failed
      container.runResult.failureReason result with
  | none => return
  | some err =>
    if C.ext.convertError err = .invalidStateTransition then
      failTask container.guid reasonInvalidTransition
    else return

/-- The rule for a report. One error has a consequence, all others are as good as a success. -/
theorem wp_reportCompletion {C : Cell} {container : Container} {result : List UInt8}
    {post : γ → Unit → Prop} :
    let complete := Call.completeTask container.guid C.cellID container.runResult.failed
      container.runResult.failureReason result
    (reportCompletion C container result).wp S post g ↔ S.pre g complete ∧
      (S.ans g complete none → post (S.next g complete none) ()) ∧
      ∀ err, S.ans g complete (some err) →
        if C.ext.convertError err = .invalidStateTransition then
          (failTask container.guid reasonInvalidTransition).wp S post
            (S.next g complete (some err))
        else post (S.next g complete (some err)) () := by
  intro complete
  simp only [reportCompletion, Bbs.completeTask, Prog.call_bind, Prog.ret_bind, Prog.wp_call]
  -- as for a claim: one error has a consequence, the others have none
  refine and_congr_right fun _ => ⟨fun h => ⟨h none, fun err herr => ?_⟩, fun h r hr => ?_⟩
  · exact Prog.wp_ite.mp (h (some err) herr)
  · cases r with
    | none => exact h.1 hr
    | some err => exact Prog.wp_ite.mpr (h.2 err hr)

/-- `completeTask`: the result file is fetched only for a run that did not fail and that has
one. If it cannot be fetched the task is failed, and no completion is reported. -/
def completeTask (C : Cell) (container : Container) : RepM Unit := do
  let resultFile := container.tags.get resultFileTag
  if container.runResult.failed = false ∧ resultFile ≠ "" then
    match ← Delegate.fetchContainerResultFile container.guid resultFile with
    | .error _ => failTask container.guid reasonFailedToFetchResult
    | .ok result => reportCompletion C container result
  else reportCompletion C container []

/-- `processCompletedContainer`: the container goes whatever the BBS answers, with the result
in it. What follows from that is the subject of the module on the end of a task. -/
def processCompletedContainer (C : Cell) (container : Container) : RepM Unit := do
  completeTask C container
  let _ ← Delegate.deleteContainer container.guid
  return

/-- `taskProcessor.Process`; a container in no known state is left alone. The four states
before the completion are handled alike: a start that is not this cell's to make any more
changes nothing. -/
def process (C : Cell) (container : Container) : RepM Unit :=
  match container.state with
  | .reserved => processActiveContainer C container
  | .initializing => processActiveContainer C container
  | .created => processActiveContainer C container
  | .running => processActiveContainer C container
  | .completed => processCompletedContainer C container
  | .invalid _ => return

/-- Every container is processed as an active one, as a completed one, or not at all. The case
distinction over the states is made here once. -/
theorem process_cases (C : Cell) (container : Container) :
    container.state ≠ .completed ∧ process C container = processActiveContainer C container ∨
    container.state = .completed ∧ process C container = processCompletedContainer C container ∨
    process C container = return := by
  rw [process]
  cases container.state with
  | reserved => exact Or.inl ⟨nofun, rfl⟩
  | initializing => exact Or.inl ⟨nofun, rfl⟩
  | created => exact Or.inl ⟨nofun, rfl⟩
  | running => exact Or.inl ⟨nofun, rfl⟩
  | completed => exact Or.inr (Or.inl ⟨rfl, rfl⟩)
  | invalid _ => exact Or.inr (Or.inr rfl)

/-- Completing a task ends in a report or in the failure to fetch the result, and reading
files is taken to be harmless. -/
theorem wp_completeTask {C : Cell} {container : Container} {post : γ → Unit → Prop}
    (hfetch : ∀ g, S.pre g (.getFiles container.guid (container.tags.get resultFileTag)) ∧
      S.pre g .tarNext ∧ S.pre g (.tarRead (maxResultSize + 1)))
    (hfail : ∀ g, (failTask container.guid reasonFailedToFetchResult).wp S post g)
    (hreport : ∀ g result, (reportCompletion C container result).wp S post g) :
    (completeTask C container).wp S post g := by
  rw [completeTask]
  by_cases hfile : container.runResult.failed = false ∧ container.tags.get resultFileTag ≠ ""
  · rw [if_pos hfile]
    refine Prog.wp_bind.mpr (Delegate.wp_fetchContainerResultFile (I := fun _ => True)
      ⟨(hfetch g).1, fun _ => trivial⟩ (fun g _ => ⟨(hfetch g).2.1, fun _ => trivial⟩)
      (fun g _ => ⟨(hfetch g).2.2, fun _ => trivial⟩) fun g fetched _ => ?_)
    cases fetched with
    | error err => exact hfail g
    | ok result => exact hreport g result
  · rw [if_neg hfile]
    exact hreport g []

/-! ### What the task processor can call

The same for tasks, with one exception that the source does have: what is run after a start is
what the BBS answered, so the guid of the request is not known to be the container's. -/

/-- The calls made for a completed container: on its own guid, and on the open stream. -/
def CompletionCall (container : Container) : Call → Prop
  | .getFiles guid _ | .completeTask guid _ _ _ _ | .failTask guid _ | .deleteContainer guid =>
    guid = container.guid
  | .tarNext | .tarRead _ => True
  | _ => False

/-- The calls made for any container. The guid of a run request is that of the task
the BBS answered with, so nothing is said here of what is run or, when the run fails,
deleted. -/
def TaskCall (container : Container) : Call → Prop
  | .startTask guid _ | .taskByGuid guid => guid = container.guid
  | .runContainer _ | .deleteContainer _ => True
  | c => CompletionCall container c

section

variable {C : Cell} {container : Container}

/-- A report is about the container's own task, and so is the failure after a refusal. -/
theorem reportCompletion_only {result : List UInt8} :
    (reportCompletion C container result).Only (CompletionCall container) := by
  simp only [reportCompletion, Bbs.completeTask, Prog.call_bind, Prog.ret_bind, Prog.only_call]
  refine ⟨rfl, ?_⟩
  intro r
  cases r with
  | none => trivial
  | some err =>
    dsimp only
    split
    · exact ⟨rfl, fun _ => trivial⟩
    · trivial

/-- The file is that of the container; the two calls after it are on the stream it opened. -/
theorem fetchContainerResultFile_only {filename : String} :
    (Delegate.fetchContainerResultFile container.guid filename).Only
      (CompletionCall container) := by
  simp only [Delegate.fetchContainerResultFile, Client.getFiles, Client.tarNext, Client.tarRead,
    Prog.call_bind, Prog.ret_bind, Prog.only_call]
  refine ⟨rfl, ?_⟩
  intro r₁
  cases r₁ with
  | some err => trivial
  | none =>
    refine ⟨trivial, ?_⟩
    intro r₂
    cases r₂ with
    | some err => trivial
    | none =>
      refine ⟨trivial, ?_⟩
      intro r₃
      dsimp only
      split
      · trivial
      · trivial

/-- Completing a task stays with the container's own guid on all three ways through it. -/
theorem completeTask_only : (completeTask C container).Only (CompletionCall container) := by
  unfold completeTask
  dsimp only
  split
  · apply fetchContainerResultFile_only.bind
    intro fetched
    cases fetched with
    | error err => exact ⟨rfl, fun _ => trivial⟩
    | ok result => exact reportCompletion_only
  · exact reportCompletion_only

/-- The deletion at the end is of the container as well. -/
theorem processCompletedContainer_only :
    (processCompletedContainer C container).Only (CompletionCall container) := by
  refine completeTask_only.bind fun _ => Prog.Only.bind ⟨rfl, fun r => ?_⟩ fun _ => trivial
  cases r <;> trivial

/-- A start is for the container's guid, which for a task is the guid of the task. -/
theorem startTask_only : (startTask C container.guid).Only (TaskCall container) := by
  simp only [startTask, Bbs.startTask, Prog.call_bind, Prog.ret_bind, Prog.only_call]
  refine ⟨rfl, ?_⟩
  intro r
  have hdelete : (do let _ ← Delegate.deleteContainer container.guid; return false :
      RepM Bool).Only (TaskCall container) := by
    refine Prog.Only.bind ⟨trivial, fun r => ?_⟩ fun _ => trivial
    cases r <;> trivial
  split
  · split
    · exact hdelete
    · exact hdelete
    · trivial
  · trivial

/-- What is run after the start is not known to be this container, since the request is made
from the reply of the BBS. -/
theorem processActiveContainer_only :
    (processActiveContainer C container).Only (TaskCall container) := by
  apply startTask_only.bind
  intro ok
  cases ok with
  | false => trivial
  | true =>
    simp only [if_pos, Bbs.taskByGuid, Prog.call_bind, Prog.ret_bind, Prog.only_call]
    refine ⟨rfl, ?_⟩
    intro r
    cases r with
    | error err => trivial
    | ok task =>
      dsimp only
      split
      · trivial
      · -- the guid of the request is the task's, which is why running and deleting are not
        -- confined here
        refine Prog.Only.bind ⟨trivial, fun r => ?_⟩ fun ok => ?_
        · cases r with
          | none => trivial
          | some err =>
            refine ⟨trivial, ?_⟩
            intro r
            cases r <;> trivial
        · cases ok with
          | true => trivial
          | false => exact ⟨rfl, fun _ => trivial⟩

/-- A completed container asks for nothing that another one could not ask for. -/
theorem taskCall_of_completionCall {c : Call} (h : CompletionCall container c) :
    TaskCall container c := by
  cases c with
  | deleteContainer => trivial
  | getFiles | completeTask | failTask => exact h
  | tarNext | tarRead => trivial
  | _ => exact h.elim

/-- **The task processor** reads and writes no LRP record, and claims, starts and reports only
the task of its container. -/
theorem process_only : (process C container).Only (TaskCall container) := by
  rcases process_cases C container with ⟨-, h⟩ | ⟨-, h⟩ | h
  · rw [h]
    exact processActiveContainer_only
  · rw [h]
    exact processCompletedContainer_only.mono fun _ => taskCall_of_completionCall
  · rw [h]
    trivial

end

end TaskProcessor

end CellRep
