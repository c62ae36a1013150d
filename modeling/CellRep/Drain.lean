import CellRep.Batch
import CellRep.Causes

/-!
# Evacuation drains the cell

While the evacuation reporter says so, every LRP container is handed to the BBS with
one evacuation call and then deleted, unless the BBS asks for it to be kept. This
module runs the container operations of a batch, one after the other in any order,
against an executor that answers truthfully, and says what is left.

The trace of the whole batch is cut into one segment for each container. A `Segment`
is what one operation may look like and what it leaves of the executor; that the
others leave its container alone is the frame condition of the segments.
-/

namespace CellRep

open Executor (Container)

/-! ## The executor

What is left in the end depends on what deletions do, so the executor is part of the world
here: a function from guids to containers. The BBS is not; its replies are arbitrary. -/

/-- The containers of a list, by guid. If a guid occurs twice, the first one counts; the theorem
assumes that none does. -/
def present (cs : List Container) : Containers := fun guid =>
  cs.find? fun container => container.guid = guid

/-- How the world answers while the cell evacuates: a container that is there is
found, a deletion succeeds, a task fetched by its guid has that guid. What running
does to the container that is run is left open, and so are the replies of the BBS. -/
def drainAnswer (w : Containers) (c : Call) (r : Reply c) (w' : Containers) : Prop :=
  match c, r with
  | .getContainer guid, r => w' = w ∧ ∀ container, w guid = some container → r = .ok container
  | .deleteContainer guid, r => r = none ∧ w' = Function.update w guid none
  | .runContainer req, _ => ∀ guid, guid ≠ req.guid → w' guid = w guid
  | .evacuating, r => w' = w ∧ r = true
  | .taskByGuid guid, .ok task => w' = w ∧ task.taskGuid = guid
  | _, _ => w' = w

/-- A deletion is one call, it is granted, and the container is gone. -/
theorem exec_deleteContainer {guid : String} {w w' : Containers} {t : List RepEvent} {ok : Bool}
    (h : (Delegate.deleteContainer guid).Exec drainAnswer w t ok w') :
    t = [⟨.deleteContainer guid, none⟩] ∧ w' = Function.update w guid none := by
  simp only [Delegate.deleteContainer, Client.deleteContainer, Prog.call_bind, Prog.ret_bind,
    Prog.exec_call] at h
  obtain ⟨r, w₁, t, rfl, ⟨rfl, rfl⟩, h⟩ := h
  obtain ⟨rfl, -, rfl⟩ := Prog.exec_ret.mp h
  exact ⟨rfl, rfl⟩

/-- A deletion at the end of a processor. -/
theorem exec_deleteContainer_return {guid : String} {w w' : Containers} {t : List RepEvent}
    (h : (do let _ ← Delegate.deleteContainer guid; return : RepM Unit).Exec drainAnswer w t ()
      w') : t = [⟨.deleteContainer guid, none⟩] ∧ w' = Function.update w guid none := by
  obtain ⟨t₁, t₂, ok, w₁, rfl, h₁, h₂⟩ := Prog.exec_bind.mp h
  obtain ⟨rfl, rfl⟩ := exec_deleteContainer h₁
  obtain ⟨rfl, -, rfl⟩ := Prog.exec_ret.mp h₂
  exact ⟨rfl, rfl⟩

/-! ## One LRP container

What is due is computed from the container first, without running anything; then the processor
is run and found to make exactly that call. There are four ways in which this can end, and two
of them leave the container where it is. -/

/-- The evacuation call due for a container, if any. None is due for what is not an LRP's, for
a container whose keys do not decode or whose state is unknown, and for a running container
without valid net info. -/
def evacuationCall (C : Cell) (container : Container) : Option Call :=
  if container.tags.get lifecycleTag = lrpLifecycle then
    match decodeLRPContainer C container with
    | .error _ => none
    | .ok lrp =>
      match container.state with
      | .reserved | .initializing | .created =>
        some (.evacuateClaimedActualLRP lrp.key lrp.instanceKey)
      | .running =>
        match actualLRPNetInfoFromContainer C.ext container with
        | .error _ => none
        | .ok netInfo => some (.evacuateRunningActualLRP lrp.key lrp.instanceKey netInfo
            C.evacuationTTLInSeconds)
      | .completed =>
        if container.runResult.stopped then
          some (.evacuateStoppedActualLRP lrp.key lrp.instanceKey)
        else some (.evacuateCrashedActualLRP lrp.key lrp.instanceKey
          container.runResult.failureReason)
      | .invalid _ => none
  else none

/-- What the evacuation processor does with an LRP container, call by call. -/
inductive EvacuationRun (C : Cell) (container : Container) (w : Containers) :
    List RepEvent → Containers → Prop where
  /-- nothing is due and nothing happens -/
  | spared : evacuationCall C container = none → EvacuationRun C container w [] w
  /-- running, and the BBS asks for it to be kept -/
  | kept {key instanceKey netInfo ttl} {err : Option Err} : container.state = .running →
      evacuationCall C container =
        some (.evacuateRunningActualLRP key instanceKey netInfo ttl) →
      EvacuationRun C container w
        [⟨.evacuateRunningActualLRP key instanceKey netInfo ttl, (true, err)⟩] w
  /-- running, and the BBS does not -/
  | dropped {key instanceKey netInfo ttl} {err : Option Err} : container.state = .running →
      evacuationCall C container =
        some (.evacuateRunningActualLRP key instanceKey netInfo ttl) →
      EvacuationRun C container w
        [⟨.evacuateRunningActualLRP key instanceKey netInfo ttl, (false, err)⟩,
          ⟨.deleteContainer container.guid, none⟩] (Function.update w container.guid none)
  /-- not running: handed over and deleted -/
  | evacuated {call : Call} {reply : Reply call} : container.state ≠ .running →
      evacuationCall C container = some call →
      EvacuationRun C container w [⟨call, reply⟩, ⟨.deleteContainer container.guid, none⟩]
        (Function.update w container.guid none)

section

variable {C : Cell} {container : Container} {w w' : Containers} {t : List RepEvent}

/-- Reserved, initializing or created: handed over as claimed, and deleted whatever the BBS
says. -/
theorem evacuationRun_of_claimed {lrp : LRPContainer}
    (hd : decodeLRPContainer C container = .ok lrp) (hstate : container.state ≠ .running)
    (hcall : evacuationCall C container =
      some (.evacuateClaimedActualLRP lrp.key lrp.instanceKey))
    (h : (Evacuation.evacuateClaimedLRPContainer lrp).Exec drainAnswer w t () w') :
    EvacuationRun C container w t w' := by
  simp only [Evacuation.evacuateClaimedLRPContainer, Bbs.evacuateClaimedActualLRP,
    Prog.call_bind, Prog.ret_bind] at h
  obtain ⟨reply, w₁, t', rfl, hact, hrest⟩ := Prog.exec_call.mp h
  obtain rfl : w₁ = w := hact
  rw [container_of_decode hd] at hrest
  obtain ⟨rfl, rfl⟩ := exec_deleteContainer_return hrest
  exact .evacuated hstate hcall

/-- Running: the only state in which the reply of the BBS decides what happens to the
container. The error of the reply is not looked at, just the flag. -/
theorem evacuationRun_of_running {lrp : LRPContainer}
    (hlife : container.tags.get lifecycleTag = lrpLifecycle)
    (hd : decodeLRPContainer C container = .ok lrp) (hstate : container.state = .running)
    (h : (Evacuation.processRunningContainer C lrp).Exec drainAnswer w t () w') :
    EvacuationRun C container w t w' := by
  rw [Evacuation.processRunningContainer, container_of_decode hd] at h
  rcases hnet : actualLRPNetInfoFromContainer C.ext container with err | netInfo
  · simp only [hnet] at h
    obtain ⟨rfl, -, rfl⟩ := Prog.exec_ret.mp h
    exact .spared (by simp only [evacuationCall, if_pos hlife, hd, hstate, hnet])
  · have hcall : evacuationCall C container = some (.evacuateRunningActualLRP lrp.key
        lrp.instanceKey netInfo C.evacuationTTLInSeconds) := by
      simp only [evacuationCall, if_pos hlife, hd, hstate, hnet]
    simp only [hnet, Bbs.evacuateRunningActualLRP, Prog.call_bind, Prog.ret_bind] at h
    obtain ⟨⟨keepContainer, err⟩, w₁, t', rfl, hact, hrest⟩ := Prog.exec_call.mp h
    obtain rfl : w₁ = w := hact
    cases keepContainer with
    | true =>
      obtain ⟨rfl, -, rfl⟩ := Prog.exec_ret.mp hrest
      exact .kept hstate hcall
    | false =>
      obtain ⟨rfl, rfl⟩ := exec_deleteContainer_return hrest
      exact .dropped hstate hcall

/-- Completed: handed over as stopped or as crashed, and deleted. -/
theorem evacuationRun_of_completed {lrp : LRPContainer}
    (hlife : container.tags.get lifecycleTag = lrpLifecycle)
    (hd : decodeLRPContainer C container = .ok lrp) (hstate : container.state = .completed)
    (h : (Evacuation.processCompletedContainer lrp).Exec drainAnswer w t () w') :
    EvacuationRun C container w t w' := by
  have hne : container.state ≠ .running := by
    rw [hstate]
    exact Executor.State.noConfusion
  rw [Evacuation.processCompletedContainer, container_of_decode hd] at h
  by_cases hstopped : container.runResult.stopped = true
  · rw [if_pos hstopped] at h
    simp only [Bbs.evacuateStoppedActualLRP, Prog.call_bind, Prog.ret_bind] at h
    obtain ⟨reply, w₁, t', rfl, hact, hrest⟩ := Prog.exec_call.mp h
    obtain rfl : w₁ = w := hact
    obtain ⟨rfl, rfl⟩ := exec_deleteContainer_return hrest
    exact .evacuated hne (by simp only [evacuationCall, if_pos hlife, hd, hstate, if_pos hstopped])
  · rw [if_neg hstopped] at h
    simp only [Bbs.evacuateCrashedActualLRP, Prog.call_bind, Prog.ret_bind] at h
    obtain ⟨reply, w₁, t', rfl, hact, hrest⟩ := Prog.exec_call.mp h
    obtain rfl : w₁ = w := hact
    obtain ⟨rfl, rfl⟩ := exec_deleteContainer_return hrest
    exact .evacuated hne (by simp only [evacuationCall, if_pos hlife, hd, hstate, if_neg hstopped])

/-- Every execution of the evacuation processor on an LRP container is one of the four, by the
state of the container. -/
theorem evacuationRun_of_exec {lrp : LRPContainer}
    (hlife : container.tags.get lifecycleTag = lrpLifecycle)
    (hd : decodeLRPContainer C container = .ok lrp)
    (h : (Evacuation.process C container).Exec drainAnswer w t () w') :
    EvacuationRun C container w t w' := by
  simp only [Evacuation.process, hd] at h
  -- three states have one function
  have hclaimed : (container.state = .reserved ∨ container.state = .initializing ∨
      container.state = .created) → (Evacuation.evacuateClaimedLRPContainer lrp).Exec drainAnswer
        w t () w' → EvacuationRun C container w t w' := by
    intro hstate hexec
    refine evacuationRun_of_claimed hd ?_ ?_ hexec
    · rcases hstate with hs | hs | hs <;> rw [hs] <;> exact Executor.State.noConfusion
    · rcases hstate with hs | hs | hs <;> simp only [evacuationCall, if_pos hlife, hd, hs]
  rcases hstate : container.state with _ | _ | _ | _ | _ | text
  · rw [hstate] at h
    exact hclaimed (Or.inl hstate) h
  · rw [hstate] at h
    exact hclaimed (Or.inr (Or.inl hstate)) h
  · rw [hstate] at h
    exact hclaimed (Or.inr (Or.inr hstate)) h
  · rw [hstate] at h
    exact evacuationRun_of_running hlife hd hstate h
  · rw [hstate] at h
    exact evacuationRun_of_completed hlife hd hstate h
  · rw [hstate] at h
    obtain ⟨rfl, -, rfl⟩ := Prog.exec_ret.mp h
    exact .spared (by simp only [evacuationCall, if_pos hlife, hd, hstate])

end

/-! ## One operation

A container operation looks the container up, asks whether the cell evacuates and hands over
to a processor. `Segment` is all that the whole batch needs to know about it. -/

/-- The four evacuation calls, one for each way an LRP can leave a cell. -/
def isEvacuation : Call → Bool
  | .evacuateClaimedActualLRP _ _ => true
  | .evacuateRunningActualLRP _ _ _ _ => true
  | .evacuateStoppedActualLRP _ _ => true
  | .evacuateCrashedActualLRP _ _ _ => true
  | _ => false

/-- The evacuation calls of a trace, in order, without their replies. -/
def evacuationCalls (t : List RepEvent) : List Call := (t.map Sigma.fst).filter isEvacuation

/-- The call claims and starts nothing, and runs, stops or deletes this container or none.
This is the frame condition: it is what keeps the segments of a batch apart. -/
def OwnCall (container : Container) : Call → Prop
  | .claimActualLRP _ _ _ => False
  | .startActualLRP _ _ _ => False
  | .runContainer req => req.guid = container.guid
  | .stopContainer guid => guid = container.guid
  | .deleteContainer guid => guid = container.guid
  | _ => True

/-- The containers that are not drained: those in no known state, and running ones
whose net info is invalid or which the BBS asked to keep. -/
def Spared (C : Cell) (container : Container) (t : List RepEvent) : Prop :=
  (∃ text, container.state = .invalid text) ∨
    (container.state = .running ∧
      ((∃ err, actualLRPNetInfoFromContainer C.ext container = .error err) ∨
        ∃ key instanceKey netInfo ttl err,
          (⟨.evacuateRunningActualLRP key instanceKey netInfo ttl, (true, err)⟩ : RepEvent) ∈ t))

/-- What becomes of an LRP container whose keys decode: it is not run, it is handed to
the BBS before it is deleted, and it stays exactly if it is spared. -/
structure Drained (C : Cell) (container : Container) (t : List RepEvent)
    (after : Option Container) : Prop where
  no_run : ∀ req r, (⟨.runContainer req, r⟩ : RepEvent) ∉ t
  handed_over : ∀ t₁ guid r t₂, t = t₁ ++ ⟨.deleteContainer guid, r⟩ :: t₂ →
    ∃ call reply, evacuationCall C container = some call ∧ (⟨call, reply⟩ : RepEvent) ∈ t₁
  stays : Spared C container t → after = some container
  goes : ¬ Spared C container t → after = none

/-- What one operation may look like, and what it leaves under its guid. -/
structure Segment (C : Cell) (container : Container) (t : List RepEvent)
    (after : Option Container) : Prop where
  own : ∀ e ∈ t, OwnCall container e.1
  calls : evacuationCalls t = (evacuationCall C container).toList
  drained : container.tags.get lifecycleTag = lrpLifecycle →
    ∀ lrp, decodeLRPContainer C container = .ok lrp → Drained C container t after

section

variable {C : Cell} {container : Container} {w w' : Containers} {t : List RepEvent}

/-- What is due is an evacuation call. -/
theorem isEvacuation_of_evacuationCall {call : Call} (h : evacuationCall C container = some call) :
    isEvacuation call = true := by
  rw [evacuationCall] at h
  -- the splits follow the definition: lifecycle, keys, state, and then net info or result
  split at h
  · split at h
    · cases h
    · split at h
      · cases h
        rfl
      · cases h
        rfl
      · cases h
        rfl
      · split at h
        · cases h
        · cases h
          rfl
      · split at h
        · cases h
          rfl
        · cases h
          rfl
      · cases h
  · cases h

/-- An evacuation call touches no container, so it is harmless to all of them. -/
theorem ownCall_of_isEvacuation {call : Call} (h : isEvacuation call = true) :
    OwnCall container call := by
  cases call with
  | evacuateClaimedActualLRP | evacuateRunningActualLRP | evacuateStoppedActualLRP
  | evacuateCrashedActualLRP => trivial
  | _ => cases h

/-- Nothing is due only for a container that is spared, as long as its keys decode. -/
theorem spared_of_evacuationCall_eq_none {lrp : LRPContainer}
    (hlife : container.tags.get lifecycleTag = lrpLifecycle)
    (hd : decodeLRPContainer C container = .ok lrp) (hcall : evacuationCall C container = none) :
    Spared C container t := by
  simp only [evacuationCall, if_pos hlife, hd] at hcall
  rcases hstate : container.state with _ | _ | _ | _ | _ | text
  · simp [hstate] at hcall
  · simp [hstate] at hcall
  · simp [hstate] at hcall
  · rcases hnet : actualLRPNetInfoFromContainer C.ext container with err | netInfo
    · exact Or.inr ⟨hstate, Or.inl ⟨err, hnet⟩⟩
    · simp [hstate, hnet] at hcall
  · by_cases hstopped : container.runResult.stopped = true
    · simp [hstate, hstopped] at hcall
    · simp [hstate, hstopped] at hcall
  · exact Or.inl ⟨text, hstate⟩

/-- The two calls before the processor's own: the look for the container and the question
whether the cell evacuates. -/
abbrev opening (container : Container) : List RepEvent :=
  [⟨.getContainer container.guid, .ok container⟩, ⟨.evacuating, true⟩]

/-- Handed over and deleted: the container is not spared and is gone. That it is not spared
has to be known from elsewhere, since a reply could be among the calls. -/
theorem drained_of_handed_over {call : Call} {reply : Reply call}
    (hcall : evacuationCall C container = some call)
    (hspared : ¬ Spared C container (opening container ++
      [⟨call, reply⟩, ⟨.deleteContainer container.guid, none⟩])) :
    Drained C container (opening container ++
      [⟨call, reply⟩, ⟨.deleteContainer container.guid, none⟩]) none := by
  have hevac := isEvacuation_of_evacuationCall hcall
  refine ⟨?_, ?_, fun h => absurd h hspared, fun _ => rfl⟩
  · intro req r hmem
    simp only [opening, List.cons_append, List.nil_append, List.mem_cons, List.not_mem_nil,
      Sigma.mk.injEq, reduceCtorEq, false_and, or_false, false_or] at hmem
    rw [← hmem.1] at hevac
    cases hevac
  · intro t₁ guid r t₂ hsplit
    -- the deletion is the last of the four calls, the evacuation call the third
    refine ⟨call, reply, hcall, ?_⟩
    rcases t₁ with _ | ⟨e₁, _ | ⟨e₂, _ | ⟨e₃, t₁⟩⟩⟩
    · injection hsplit with h
      cases h
    · injection hsplit with _ hsplit
      injection hsplit with h
      cases h
    · injection hsplit with _ hsplit
      injection hsplit with _ hsplit
      injection hsplit with h
      injection h with h
      rw [h] at hevac
      cases hevac
    · injection hsplit with _ hsplit
      injection hsplit with _ hsplit
      injection hsplit with h _
      rw [← h]
      simp

/-- Not deleted: the container is spared and stays. Nothing has to be shown about a hand-over,
as there is no deletion to come after it. -/
theorem drained_of_spared {t : List RepEvent} (hspared : Spared C container t)
    (hdelete : ∀ guid r, (⟨.deleteContainer guid, r⟩ : RepEvent) ∉ t)
    (hrun : ∀ req r, (⟨.runContainer req, r⟩ : RepEvent) ∉ t) :
    Drained C container t (some container) := by
  refine ⟨hrun, ?_, fun _ => rfl, fun h => absurd hspared h⟩
  intro t₁ guid r t₂ hsplit
  refine absurd ?_ (hdelete guid r)
  rw [hsplit]
  exact List.mem_append_right _ (List.mem_cons_self ..)

/-- The segment of an LRP container, by the four ways in which the processor can end. -/
theorem segment_of_evacuationRun {lrp : LRPContainer}
    (hlife : container.tags.get lifecycleTag = lrpLifecycle)
    (hd : decodeLRPContainer C container = .ok lrp) (hw : w container.guid = some container)
    (h : EvacuationRun C container w t w') :
    Segment C container (opening container ++ t) (w' container.guid) := by
  cases h with
  | spared hcall =>
    refine ⟨?_, by rw [hcall]; rfl, ?_⟩
    · simp [OwnCall]
    · intro _ _ _
      rw [hw]
      exact drained_of_spared (spared_of_evacuationCall_eq_none hlife hd hcall) (by simp) (by simp)
  | @kept key instanceKey netInfo ttl err hstate hcall =>
    refine ⟨?_, by rw [hcall]; rfl, ?_⟩
    · simp [OwnCall]
    · intro _ _ _
      rw [hw]
      exact drained_of_spared (Or.inr ⟨hstate, Or.inr ⟨key, instanceKey, netInfo, ttl, err,
        by simp⟩⟩) (by simp) (by simp)
  | @dropped key instanceKey netInfo ttl err hstate hcall =>
    refine ⟨?_, by rw [hcall]; rfl, ?_⟩
    · simp [OwnCall]
    · intro _ _ _
      rw [Function.update_self]
      apply drained_of_handed_over hcall
      rintro (⟨text, htext⟩ | ⟨-, ⟨err', herr⟩ | ⟨_, _, _, _, _, hmem⟩⟩)
      · rw [hstate] at htext
        cases htext
      · -- without net info no call would have been due
        simp [evacuationCall, hlife, hd, hstate, herr] at hcall
      · simp at hmem
  -- not running, so no reason to be spared applies
  | @evacuated call reply hstate hcall =>
    have hevac := isEvacuation_of_evacuationCall hcall
    refine ⟨?_, ?_, ?_⟩
    · intro e he
      simp only [opening, List.cons_append, List.nil_append, List.mem_cons, List.not_mem_nil,
        or_false] at he
      rcases he with rfl | rfl | rfl | rfl
      · trivial
      · trivial
      · exact ownCall_of_isEvacuation hevac
      · rfl
    · rw [hcall]
      simp only [evacuationCalls, opening, List.cons_append, List.nil_append, List.map_cons,
        List.map_nil, List.filter_cons, hevac, if_pos, Option.toList_some]
      rfl
    · intro _ _ _
      rw [Function.update_self]
      apply drained_of_handed_over hcall
      rintro (⟨text, htext⟩ | ⟨hrunning, -⟩)
      · simp [evacuationCall, hlife, hd, htext] at hcall
      · exact hstate hrunning

end

/-! ## The whole batch

The operations run one after the other. Each finds its container untouched by those before it,
which is the frame condition again, and then behaves as if it were alone. -/

section

variable {C : Cell} {container : Container} {w w' : Containers} {t : List RepEvent}

/-- A call of its own leaves every other container alone. -/
theorem drainAnswer_frame {c : Call} {r : Reply c} {guid : String} (hc : OwnCall container c)
    (hact : drainAnswer w c r w') (hguid : guid ≠ container.guid) : w' guid = w guid := by
  cases c with
  | getContainer => rw [hact.1]
  | deleteContainer asked =>
    obtain rfl : asked = container.guid := hc
    rw [hact.2, Function.update_of_ne hguid]
  | runContainer req =>
    have hreq : req.guid = container.guid := hc
    exact hact guid (by rw [hreq]; exact hguid)
  | evacuating => rw [hact.1]
  | taskByGuid asked =>
    cases r with
    | error err => exact congrFun hact guid
    | ok task => rw [hact.1]
  | _ => exact congrFun hact guid

/-- A whole execution made of such calls leaves the other guids alone: the frame condition
along a run. -/
theorem exec_frame {α : Type} {p : RepM α} {a : α} (h : p.Exec drainAnswer w t a w')
    (hown : ∀ e ∈ t, OwnCall container e.1) {guid : String} (hguid : guid ≠ container.guid) :
    w' guid = w guid :=
  h.invariant (P := OwnCall container) (I := fun v => v guid = w guid)
    (fun hc hact hv => (drainAnswer_frame hc hact hguid).trans hv) hown rfl

/-- Task processing makes only calls of its own, and no evacuation call. That its calls are
about its own container is what `wp_task_causes` has shown already; here it is only read off. -/
theorem task_own (hlife : container.tags.get lifecycleTag = taskLifecycle)
    (h : (TaskProcessor.process C container).Exec drainAnswer w t () w') :
    (∀ e ∈ t, OwnCall container e.1) ∧ ∀ e ∈ t, isEvacuation e.1 = false := by
  have honly := TaskProcessor.process_only.of_trace h.trace
  -- the fetched task is the one asked for, as `wp_task_causes` wants it
  have hfetch : ∀ e ∈ t, OrdinaryReply e.1 e.2 := by
    have hreplies := h.forall_events (Q := fun c r => ∀ guid task,
      (⟨c, r⟩ : RepEvent) = ⟨.taskByGuid guid, .ok task⟩ → task.taskGuid = guid)
      (fun {w c r w'} hact guid task heq => by cases heq; exact hact.2)
    rintro ⟨c, r⟩ he
    cases c with
    | evacuating => exact (honly _ he).elim
    | taskByGuid guid =>
      cases r with
      | error err => trivial
      | ok task => exact hreplies _ he guid task rfl
    | _ => trivial
  have hpermitted := (Prog.wp_sound (wp_task_causes (C := C) (h := []) hlife) h.trace
    ((Spec.answered_history _ _).mpr hfetch)).2
  refine ⟨?_, ?_⟩
  · intro e he
    obtain ⟨t₁, t₂, rfl⟩ := List.append_of_mem he
    obtain ⟨c, r⟩ := e
    have htarget := (hpermitted t₁ c r t₂ rfl).1
    have htask := honly ⟨c, r⟩ he
    cases c with
    | runContainer | deleteContainer | stopContainer => exact htarget
    | claimActualLRP | startActualLRP => exact htask.elim
    | _ => trivial
  · intro e he
    have htask := honly e he
    obtain ⟨c, r⟩ := e
    cases c with
    | evacuateClaimedActualLRP | evacuateRunningActualLRP | evacuateStoppedActualLRP
    | evacuateCrashedActualLRP => exact htask.elim
    | _ => rfl

/-- Where there is no evacuation call, none is listed. -/
theorem evacuationCalls_eq_nil (h : ∀ e ∈ t, isEvacuation e.1 = false) :
    evacuationCalls t = [] := by
  apply List.filter_eq_nil_iff.mpr
  intro c hc
  obtain ⟨e, he, rfl⟩ := List.mem_map.mp hc
  rw [h e he]
  exact Bool.false_ne_true

/-- **One operation** on a container that is there is a segment. LRPs go through the
evacuation processor; tasks are processed as ever, and a container of neither kind is left
alone. -/
theorem segment_of_exec (hw : w container.guid = some container)
    (h : (Operation.execute C (.container container.guid)).Exec drainAnswer w t () w') :
    Segment C container t (w' container.guid) := by
  rw [Operation.execute, executeContainer, Prog.exec_bind] at h
  obtain ⟨t₁, t₂, found, w₁, rfl, hget, h⟩ := h
  simp only [Delegate.getContainer, Client.getContainer, Prog.call_bind, Prog.ret_bind] at hget
  obtain ⟨r, w₂, t', rfl, ⟨rfl, hr⟩, hfound⟩ := Prog.exec_call.mp hget
  obtain rfl := hr container hw
  obtain ⟨rfl, rfl, rfl⟩ := Prog.exec_ret.mp hfound
  dsimp only at h
  by_cases hlrp : container.tags.get lifecycleTag = lrpLifecycle
  · rw [if_pos hlrp] at h
    simp only [lrpProcess, evacuating, Prog.call_bind, Prog.ret_bind] at h
    obtain ⟨isEvacuating, w₂, t', rfl, ⟨rfl, htrue⟩, hrest⟩ := Prog.exec_call.mp h
    obtain rfl : isEvacuating = true := htrue
    rw [if_pos rfl] at hrest
    rcases hd : decodeLRPContainer C container with err | lrp
    · -- keys that do not decode: the processor gives up without a call
      simp only [Evacuation.process, hd] at hrest
      obtain ⟨rfl, -, rfl⟩ := Prog.exec_ret.mp hrest
      refine ⟨by simp [OwnCall], ?_, ?_⟩
      · simp only [evacuationCall, if_pos hlrp, hd]
        rfl
      · intro _ lrp hd'
        rw [hd] at hd'
        cases hd'
    · exact segment_of_evacuationRun hlrp hd hw (evacuationRun_of_exec hlrp hd hrest)
  · rw [if_neg hlrp] at h
    have hnone : evacuationCall C container = none := by rw [evacuationCall, if_neg hlrp]
    by_cases htask : container.tags.get lifecycleTag = taskLifecycle
    · rw [if_pos htask] at h
      obtain ⟨hown, hevac⟩ := task_own htask h
      refine ⟨?_, ?_, fun hlife => absurd hlife hlrp⟩
      · intro e he
        rcases List.mem_cons.mp he with rfl | he
        · trivial
        · exact hown e he
      · rw [hnone]
        apply evacuationCalls_eq_nil
        intro e he
        rcases List.mem_cons.mp he with rfl | he
        · rfl
        · exact hevac e he
    · rw [if_neg htask] at h
      obtain ⟨rfl, -, rfl⟩ := Prog.exec_ret.mp h
      exact ⟨by simp [OwnCall], by rw [hnone]; rfl, fun hlife => absurd hlife hlrp⟩

end

/-- A run of container operations, one for each container of a list that is there, is
cut into their segments, and what a segment leaves is what is left in the end. -/
theorem segments_of_exec {C : Cell} {order : List Container} :
    ∀ {w w' : Containers} {t : List RepEvent}, (order.map Container.guid).Nodup →
      (∀ container ∈ order, w container.guid = some container) →
      (executeAll C (order.map fun container => .container container.guid)).Exec
        drainAnswer w t () w' →
      (∀ guid, guid ∉ order.map Container.guid → w' guid = w guid) ∧
      ∃ seg : String → List RepEvent, t = order.flatMap (fun container => seg container.guid) ∧
        ∀ container ∈ order, Segment C container (seg container.guid) (w' container.guid) := by
  induction order with
  | nil =>
    intro w w' t _ _ h
    obtain ⟨rfl, -, rfl⟩ := Prog.exec_ret.mp h
    exact ⟨fun _ _ => rfl, fun _ => [], rfl, fun _ h => absurd h List.not_mem_nil⟩
  | cons container order ih =>
    intro w w' t hnd hw h
    rw [List.map_cons, List.nodup_cons] at hnd
    obtain ⟨t₁, t₂, u, w₁, rfl, h₁, h₂⟩ := Prog.exec_bind.mp h
    have hseg := segment_of_exec (hw container (List.mem_cons_self ..)) h₁
    have hne : ∀ other ∈ order, other.guid ≠ container.guid := fun other hother heq =>
      hnd.1 (heq ▸ List.mem_map_of_mem hother)
    -- the first operation leaves the others' containers where they are
    have hw₁ : ∀ other ∈ order, w₁ other.guid = some other := by
      intro other hother
      rw [exec_frame h₁ hseg.own (hne other hother)]
      exact hw other (List.mem_cons_of_mem _ hother)
    obtain ⟨hframe, seg, rfl, hsegs⟩ := ih hnd.2 hw₁ h₂
    refine ⟨?_, Function.update seg container.guid t₁, ?_, ?_⟩
    · intro guid hguid
      rw [List.map_cons, List.mem_cons, not_or] at hguid
      rw [hframe guid hguid.2, exec_frame h₁ hseg.own hguid.1]
    · rw [List.flatMap_cons, Function.update_self]
      congr 1
      apply List.flatMap_congr
      intro other hother
      rw [Function.update_of_ne (hne other hother)]
    · intro other hother
      rcases List.mem_cons.mp hother with rfl | hother
      · rw [Function.update_self, hframe _ hnd.1]
        exact hseg
      · rw [Function.update_of_ne (hne other hother)]
        exact hsegs other hother

/-- Where guids are distinct, every container of a list is found under its own. -/
theorem present_of_mem {cs : List Container} (hnd : (cs.map Container.guid).Nodup)
    {container : Container} (hmem : container ∈ cs) :
    present cs container.guid = some container := by
  induction cs with
  | nil => exact absurd hmem List.not_mem_nil
  | cons other cs ih =>
    rw [List.map_cons, List.nodup_cons] at hnd
    rcases List.mem_cons.mp hmem with rfl | hmem
    · simp [present]
    · have hne : other.guid ≠ container.guid := fun heq =>
        hnd.1 (heq ▸ List.mem_map_of_mem hmem)
      rw [present, List.find?_cons_of_neg (by simpa using hne)]
      exact ih hnd.2 hmem

/-- **Evacuation drains every LRP container it should.** Whatever the BBS replies and
whatever the order, the trace of the batch is made of one segment for each container.
No segment claims or starts anything, or runs, stops or deletes another's container;
the evacuation calls of a segment are exactly the one due for its container, with its
own keys. An LRP container whose keys decode is not run, is deleted only after its
evacuation call, and remains in the end exactly if it is spared. -/
theorem evacuation_drains (C : Cell) (cs order : List Container)
    (hnd : (cs.map Container.guid).Nodup) (horder : order.Perm cs) (t : List RepEvent)
    (w' : Containers)
    (hexec : (executeAll C (order.map fun container => .container container.guid)).Exec
      drainAnswer (present cs) t () w') :
    ∃ seg : String → List RepEvent, t = order.flatMap (fun container => seg container.guid) ∧
      ∀ container ∈ cs, Segment C container (seg container.guid) (w' container.guid) := by
  have hnd' : (order.map Container.guid).Nodup := (horder.map _).nodup_iff.mpr hnd
  obtain ⟨-, seg, ht, hsegs⟩ := segments_of_exec hnd'
    (fun container hmem => present_of_mem hnd (horder.mem_iff.mp hmem)) hexec
  exact ⟨seg, ht, fun container hmem => hsegs container (horder.mem_iff.mpr hmem)⟩

/-! ### Two containers

A reserved container is handed over and deleted; a running one is kept because the BBS
says so. -/

/-- The reserved container of the sample LRP once it runs, under another guid. It has an
address, so its net info is valid. -/
def sampleRunning : Container :=
  { (lrpRequest { sampleLRP with key := ⟨"process", 4, "domain"⟩ } "other" "").container with
    state := .running
    externalIP := "10.0.0.1" }

/-- The calls for both, the running one first. There is no deletion in its part. -/
def sampleDrainTrace : List RepEvent :=
  [⟨.getContainer "other", .ok sampleRunning⟩, ⟨.evacuating, true⟩,
    ⟨.evacuateRunningActualLRP ⟨"process", 4, "domain"⟩ ⟨"other", "cell"⟩ ⟨"10.0.0.1", "", []⟩ 0,
      (true, none)⟩,
    ⟨.getContainer "guid", .ok sampleReserved⟩, ⟨.evacuating, true⟩,
    ⟨.evacuateClaimedActualLRP ⟨"process", 3, "domain"⟩ ⟨"guid", "cell"⟩, (false, none)⟩,
    ⟨.deleteContainer "guid", none⟩]

/-- Both containers are segments of one run; the running one is left. -/
theorem evacuation_drains_sampleReserved : ∃ w' : Containers,
    w' "other" = some sampleRunning ∧ w' "guid" = none ∧
    ∃ seg : String → List RepEvent,
      sampleDrainTrace = seg "other" ++ (seg "guid" ++ []) ∧
      Segment Cell.sample sampleReserved (seg "guid") none ∧
      Segment Cell.sample sampleRunning (seg "other") (some sampleRunning) := by
  let w := present [sampleReserved, sampleRunning]
  have hget : ∀ (guid : String) (container : Container), w guid = some container →
      drainAnswer w (.getContainer guid) (.ok container) w := by
    intro guid container hw
    refine ⟨rfl, ?_⟩
    intro container' hw'
    rw [Option.some.inj (hw.symm.trans hw')]
  have hexec : (executeAll Cell.sample ([sampleRunning, sampleReserved].map fun container =>
      .container container.guid)).Exec drainAnswer w sampleDrainTrace ()
      (Function.update w "guid" none) :=
    .call (hget _ _ rfl) (.call ⟨rfl, rfl⟩ (.call rfl (.call (hget _ _ rfl) (.call ⟨rfl, rfl⟩
      (.call rfl (.call ⟨rfl, rfl⟩ (.ret _ _)))))))
  obtain ⟨seg, htrace, hsegs⟩ := evacuation_drains Cell.sample [sampleReserved, sampleRunning]
    [sampleRunning, sampleReserved] (by decide) (List.Perm.swap ..) _ _ hexec
  exact ⟨Function.update w "guid" none, rfl, rfl, seg, htrace, hsegs sampleReserved (by simp),
    hsegs sampleRunning (by simp)⟩

end CellRep
