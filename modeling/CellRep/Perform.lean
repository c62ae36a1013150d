import CellRep.AuctionCell

/-!
# Perform loses and duplicates no work

Failed work is assembled from three sources: what could not be translated, what the
executor names among its failures (found again through a map from guids), and the
whole input when the call itself fails. This module follows each piece of work to
exactly one place.

The bookkeeping is the same for both kinds of work. `Sent` pairs each translated
piece of work with its request; `left` is what a reply leaves allocated; and
`failed_append_left` is the conservation law of one `allocate`.
-/

namespace CellRep

open Executor (AllocationRequest AllocationFailure)

/-! ## Conservation in one allocation

Both kinds of work end in the same call, and what is shown about it here knows nothing of LRPs
or tasks: there is an input, some of it is sent under distinct guids, and the map leads from a
guid back to what was sent under it. -/

/-- Work paired with the request it was translated to. The requests of the call are the second
components, in this order. -/
abbrev Sent (α : Type) : Type := List (α × AllocationRequest)

/-- The guids named by the executor's failures. -/
def failedGuids (failures : List AllocationFailure) : List String :=
  failures.map fun failure => failure.request.guid

/-- What a reply leaves allocated: everything sent, less the named failures; nothing if the
call failed. A call that fails after it has allocated something would break the second half,
and nothing in the rep could notice. -/
def left {α : Type} (sent : Sent α) : Except Err (List AllocationFailure) → List α
  | .error _ => []
  | .ok failures => (sent.filter fun p => p.2.guid ∉ failedGuids failures).map Prod.fst

/-- A reply the executor may give: it names no request twice and none that was not made. It is
the only assumption about the executor in this module. -/
def Truthful (requests : List AllocationRequest) : Except Err (List AllocationFailure) → Prop
  | .error _ => True
  | .ok failures => (failedGuids failures).Nodup ∧
      ∀ guid ∈ failedGuids failures, guid ∈ requests.map AllocationRequest.guid

/-- The work a truthful reply names is the work that was sent under those guids, in some
order. Distinct guids make the map faithful, and the truthful reply makes the list of failures
one without repetitions. -/
theorem failuresOf_perm {α : Type} {sent : Sent α} {byGuid : GoMap String α}
    {failures : List AllocationFailure}
    (hnd : (sent.map fun p => p.2.guid).Nodup)
    (hmap : ∀ p ∈ sent, byGuid.lookup p.2.guid = some p.1)
    (htrue : Truthful (sent.map Prod.snd) (.ok failures)) :
    (failuresOf byGuid failures).Perm
      ((sent.filter fun p => p.2.guid ∈ failedGuids failures).map Prod.fst) := by
  obtain ⟨hfnd, hsub⟩ := htrue
  -- the failed guids, in the order of the requests
  have hguids : (failedGuids failures).Perm
      ((sent.map fun p => p.2.guid).filter fun g => g ∈ failedGuids failures) := by
    apply (List.perm_ext_iff_of_nodup hfnd (hnd.filter _)).mpr
    intro g
    rw [List.mem_filter, decide_eq_true_eq]
    refine ⟨fun hg => ⟨?_, hg⟩, fun hg => hg.2⟩
    have := hsub g hg
    rwa [List.map_map] at this
  -- looking these guids up gives back the work they were made for
  have hlookup : ((sent.map fun p => p.2.guid).filter fun g => g ∈ failedGuids failures).filterMap
      (fun g => byGuid.lookup g) =
        (sent.filter fun p => p.2.guid ∈ failedGuids failures).map Prod.fst := by
    rw [List.filter_map, List.filterMap_map, ← List.filterMap_eq_map]
    apply List.filterMap_congr
    intro p hp
    exact hmap p (List.mem_of_mem_filter hp)
  have hfailures : failuresOf byGuid failures =
      (failedGuids failures).filterMap fun g => byGuid.lookup g := by
    rw [failuresOf, failedGuids, List.filterMap_map]
    rfl
  rw [hfailures, ← hlookup]
  exact hguids.filterMap _

/-- **Conservation**: what is reported failed and what is left allocated together are the
input, each piece of work once. A failed call reports the input itself, in its own order. -/
theorem failed_append_left {α : Type} {input untranslated : List α} {sent : Sent α}
    {byGuid : GoMap String α} (hsplit : (untranslated ++ sent.map Prod.fst).Perm input)
    (hnd : (sent.map fun p => p.2.guid).Nodup)
    (hmap : ∀ p ∈ sent, byGuid.lookup p.2.guid = some p.1)
    {t : List RepEvent} {failed : List α}
    (ht : (allocate input ⟨sent.map Prod.snd, byGuid, untranslated⟩).Trace t failed)
    (htrue : ∀ r, ⟨.allocateContainers (sent.map Prod.snd), r⟩ ∈ t →
      Truthful (sent.map Prod.snd) r) :
    ∃ r, t = [⟨.allocateContainers (sent.map Prod.snd), r⟩] ∧
      (failed ++ left sent r).Perm input ∧ (∀ err, r = .error err → failed = input) := by
  simp only [allocate, Client.allocateContainers, Prog.call_bind, Prog.ret_bind,
    Prog.trace_call] at ht
  obtain ⟨r, t', rfl, ht⟩ := ht
  have htr := htrue r (List.mem_cons_self ..)
  rcases r with err | failures
  · obtain ⟨rfl, rfl⟩ := Prog.trace_ret.mp ht
    exact ⟨_, rfl, by simp [left], fun _ _ => rfl⟩
  · obtain ⟨rfl, rfl⟩ := Prog.trace_ret.mp ht
    refine ⟨_, rfl, ?_, fun err herr => by cases herr⟩
    -- what was sent splits into the named failures and the rest
    have hparts := ((List.filter_append_perm
      (fun p : α × AllocationRequest => decide (p.2.guid ∈ failedGuids failures)) sent).map
      Prod.fst)
    rw [List.map_append] at hparts
    have hleft : left sent (.ok failures) = (sent.filter fun p =>
        !decide (p.2.guid ∈ failedGuids failures)).map Prod.fst := by
      simp [left]
    rw [hleft, List.append_assoc]
    refine List.Perm.trans (List.Perm.append_left _ ?_) hsplit
    exact ((failuresOf_perm hnd hmap htr).append_right _).trans hparts

/-! ## Translating LRPs

The loop calls for one guid per LRP and mixes calls with pure computation. It is described by
the list of outcomes of those calls: given the outcomes, which LRPs are sent and under which
requests is a pure function. -/

/-- The request an LRP is translated to, given the outcome of generating its guid. There is
none if no guid was generated or if the image has no path on this cell. -/
def lrpRequest? (C : Cell) (lrp : LRP) : Except Err String → Option AllocationRequest
  | .error _ => none
  | .ok instanceGuid =>
    match pathForRootFS C.ext lrp.placement.rootFs C.stackPathMap with
    | .error _ => none
    | .ok rootFSPath => some (lrpRequest lrp instanceGuid rootFSPath)

/-- The LRPs for which a request is made, each with its request. -/
def sentLRPs (C : Cell) (lrps : List LRP) (outcomes : List (Except Err String)) : Sent LRP :=
  (lrps.zip outcomes).filterMap fun p => (lrpRequest? C p.1 p.2).map fun req => (p.1, req)

/-- The LRPs for which none is made, in their order; they are reported failed. -/
def unsentLRPs (C : Cell) (lrps : List LRP) (outcomes : List (Except Err String)) : List LRP :=
  (lrps.zip outcomes).filterMap fun p => if (lrpRequest? C p.1 p.2).isNone then some p.1 else none

/-- One call of `generateInstanceGuid` and its outcome. -/
def guidEvent (outcome : Except Err String) : RepEvent := ⟨.generateInstanceGuid, outcome⟩

/-- The guids generated along a trace, those included that were not used in the end. -/
def generatedGuids (t : List RepEvent) : List String :=
  t.filterMap fun e =>
    match e with
    | ⟨.generateInstanceGuid, .ok guid⟩ => some guid
    | _ => none

/-- **The loop makes one request per translated LRP, in order, and files it under its own
guid.** The accumulator is general, since the induction is on the LRPs that are still to come. -/
theorem trace_lrpsToAllocationRequestLoop {C : Cell} {lrps : List LRP} :
    ∀ {acc : Translation LRP} {t : List RepEvent} {tr : Translation LRP},
      (lrpsToAllocationRequestLoop C acc lrps).Trace t tr →
      ∃ outcomes : List (Except Err String), outcomes.length = lrps.length ∧
        t = outcomes.map guidEvent ∧
        tr = ⟨acc.requests ++ (sentLRPs C lrps outcomes).map Prod.snd,
          GoMap.putAll (fun p => p.2.guid) Prod.fst acc.byGuid (sentLRPs C lrps outcomes),
          acc.untranslated ++ unsentLRPs C lrps outcomes⟩ := by
  -- by induction on the LRPs, for any accumulator; the outcomes are those of the guids, in order
  induction lrps with
  | nil =>
    intro acc t tr h
    obtain ⟨rfl, rfl⟩ := Prog.trace_ret.mp h
    exact ⟨[], rfl, rfl, by simp [sentLRPs, unsentLRPs]⟩
  | cons lrp lrps ih =>
    intro acc t tr h
    simp only [lrpsToAllocationRequestLoop, generateInstanceGuid, Prog.call_bind, Prog.ret_bind,
      Prog.trace_call] at h
    obtain ⟨outcome, t', rfl, h⟩ := h
    rcases outcome with err | instanceGuid
    · obtain ⟨outcomes, hlen, rfl, rfl⟩ := ih h
      exact ⟨.error err :: outcomes, by simp [hlen], rfl,
        by simp [sentLRPs, unsentLRPs, lrpRequest?]⟩
    · rcases hpath : pathForRootFS C.ext lrp.placement.rootFs C.stackPathMap with err | rootFSPath
      · simp only [hpath] at h
        obtain ⟨outcomes, hlen, rfl, rfl⟩ := ih h
        exact ⟨.ok instanceGuid :: outcomes, by simp [hlen], rfl,
          by simp [sentLRPs, unsentLRPs, lrpRequest?, hpath]⟩
      · simp only [hpath] at h
        obtain ⟨outcomes, hlen, rfl, rfl⟩ := ih h
        exact ⟨.ok instanceGuid :: outcomes, by simp [hlen], rfl,
          by simp [sentLRPs, unsentLRPs, lrpRequest?, hpath]⟩

/-- Every LRP is either sent or not: the translation itself loses nothing. -/
theorem unsentLRPs_append_sentLRPs {C : Cell} {lrps : List LRP} :
    ∀ {outcomes : List (Except Err String)}, outcomes.length = lrps.length →
      (unsentLRPs C lrps outcomes ++ (sentLRPs C lrps outcomes).map Prod.fst).Perm lrps := by
  induction lrps with
  | nil => simp [sentLRPs, unsentLRPs]
  | cons lrp lrps ih =>
    intro outcomes hlen
    rcases outcomes with _ | ⟨outcome, outcomes⟩
    · simp at hlen
    · have hrest := @ih outcomes (by simpa using hlen)
      rcases hreq : lrpRequest? C lrp outcome with _ | req
      · simp only [unsentLRPs, sentLRPs, List.zip_cons_cons, List.filterMap_cons, hreq] at hrest ⊢
        exact hrest.cons lrp
      · simp only [unsentLRPs, sentLRPs, List.zip_cons_cons, List.filterMap_cons, hreq,
          Option.map_some, List.map_cons] at hrest ⊢
        exact List.perm_middle.trans (hrest.cons lrp)

/-- A request goes by the guid that was generated for it, so that distinct guids make distinct
requests. -/
theorem guid_of_lrpRequest? {C : Cell} {lrp : LRP} {outcome : Except Err String}
    {req : AllocationRequest} (h : lrpRequest? C lrp outcome = some req) :
    outcome = .ok req.guid := by
  rcases outcome with err | instanceGuid
  · simp [lrpRequest?] at h
  · simp only [lrpRequest?] at h
    rcases hpath : pathForRootFS C.ext lrp.placement.rootFs C.stackPathMap with err | rootFSPath
    · rw [hpath] at h
      cases h
    · rw [hpath] at h
      obtain rfl := Option.some.inj h
      rfl

/-- The guids of the requests are some of those generated, in order. That they are distinct
follows from the generator, not from the code. -/
theorem sentLRPs_guids_sublist {C : Cell} {lrps : List LRP} :
    ∀ {outcomes : List (Except Err String)},
      ((sentLRPs C lrps outcomes).map fun p => p.2.guid).Sublist
        (generatedGuids (outcomes.map guidEvent)) := by
  induction lrps with
  | nil => simp [sentLRPs]
  | cons lrp lrps ih =>
    intro outcomes
    rcases outcomes with _ | ⟨outcome, outcomes⟩
    · simp [sentLRPs]
    · have hrest := @ih outcomes
      rcases hreq : lrpRequest? C lrp outcome with _ | req
      · simp only [sentLRPs, List.zip_cons_cons, List.filterMap_cons, hreq, Option.map_none]
        apply hrest.trans
        simp only [generatedGuids, List.map_cons, List.filterMap_cons]
        split
        · exact List.Sublist.refl _
        · exact List.sublist_cons_self _ _
      · obtain rfl := guid_of_lrpRequest? hreq
        simp only [sentLRPs, List.zip_cons_cons, List.filterMap_cons, hreq, Option.map_some,
          List.map_cons, generatedGuids, guidEvent] at hrest ⊢
        exact hrest.cons_cons _

/-! ## Translating tasks

Tasks need no guid of their own, so the loop is a pure function and its result an equation.
The map holds all tasks here, which makes no difference as long as the task guids are
distinct. -/

/-- The request a task is translated to; there is none if its image has no path on this cell. -/
def taskRequest? (C : Cell) (task : Task) : Option AllocationRequest :=
  match pathForRootFS C.ext task.placement.rootFs C.stackPathMap with
  | .error _ => none
  | .ok rootFSPath => some (taskRequest task rootFSPath)

/-- The tasks for which a request is made, each with its request. -/
def sentTasks (C : Cell) (tasks : List Task) : Sent Task :=
  tasks.filterMap fun task => (taskRequest? C task).map fun req => (task, req)

/-- The tasks for which none is made. -/
def unsentTasks (C : Cell) (tasks : List Task) : List Task :=
  tasks.filter fun task => (taskRequest? C task).isNone

/-- The loop in closed form, with its accumulator. -/
theorem tasksToAllocationRequestsLoop_eq {C : Cell} {tasks : List Task} :
    ∀ {acc : Translation Task}, tasksToAllocationRequestsLoop C acc tasks =
      ⟨acc.requests ++ (sentTasks C tasks).map Prod.snd,
        GoMap.putAll Task.taskGuid id acc.byGuid tasks,
        acc.untranslated ++ unsentTasks C tasks⟩ := by
  induction tasks with
  | nil =>
    intro acc
    simp [tasksToAllocationRequestsLoop, sentTasks, unsentTasks]
  | cons task tasks ih =>
    intro acc
    rcases hpath : pathForRootFS C.ext task.placement.rootFs C.stackPathMap with err | rootFSPath
    · simp [tasksToAllocationRequestsLoop, hpath, ih, sentTasks, unsentTasks, taskRequest?]
    · simp [tasksToAllocationRequestsLoop, hpath, ih, sentTasks, unsentTasks, taskRequest?]

theorem map_fst_sentTasks {C : Cell} (tasks : List Task) : (sentTasks C tasks).map Prod.fst =
    tasks.filter fun task => !(taskRequest? C task).isNone := by
  induction tasks with
  | nil => rfl
  | cons task tasks ih =>
    rcases hreq : taskRequest? C task with _ | req
    · simpa [sentTasks, hreq] using ih
    · simpa [sentTasks, hreq] using ih

theorem unsentTasks_append_sentTasks {C : Cell} (tasks : List Task) :
    (unsentTasks C tasks ++ (sentTasks C tasks).map Prod.fst).Perm tasks := by
  rw [map_fst_sentTasks]
  exact List.filter_append_perm _ tasks

/-- A task's request goes by the task's guid, and the task is one of the input. -/
theorem of_mem_sentTasks {C : Cell} {tasks : List Task} {p : Task × AllocationRequest}
    (h : p ∈ sentTasks C tasks) : p.1 ∈ tasks ∧ p.2.guid = p.1.taskGuid := by
  obtain ⟨task, htask, hp⟩ := List.mem_filterMap.mp h
  unfold taskRequest? at hp
  rcases hpath : pathForRootFS C.ext task.placement.rootFs C.stackPathMap with err | rootFSPath
  · rw [hpath] at hp
    cases hp
  · rw [hpath] at hp
    obtain rfl := Option.some.inj hp
    exact ⟨htask, rfl⟩

theorem sentTasks_guids_sublist {C : Cell} (tasks : List Task) :
    ((sentTasks C tasks).map fun p => p.2.guid).Sublist (tasks.map Task.taskGuid) := by
  have hguids : ((sentTasks C tasks).map fun p => p.2.guid) =
      ((sentTasks C tasks).map Prod.fst).map Task.taskGuid := by
    rw [List.map_map]
    exact List.map_congr_left fun p hp => (of_mem_sentTasks hp).2
  rw [hguids, map_fst_sentTasks]
  exact List.filter_sublist.map _

/-! ## Perform

The two halves one after the other. An LRP whose guid happens to be a task's guid is no
problem: the halves make separate calls and have separate maps. -/

/-- The allocation call of one kind of work: none when there is no such work. With work but
without a request the call is made, with an empty list. -/
def allocationEvents {α : Type} (input : List α) (requests : List AllocationRequest)
    (r : Except Err (List AllocationFailure)) : List RepEvent :=
  match input with
  | [] => []
  | _ :: _ => [⟨.allocateContainers requests, r⟩]

/-- Every allocation reply along the trace is one the executor may give. -/
def TruthfulTrace (t : List RepEvent) : Prop :=
  ∀ requests r, ⟨.allocateContainers requests, r⟩ ∈ t → Truthful requests r

/-- The LRP half: guids are generated for all LRPs, then one allocation is made, and the
conservation law holds of it. -/
theorem trace_performLRPs {C : Cell} {lrps : List LRP} {t : List RepEvent} {failed : List LRP}
    (ht : (performLRPs C lrps).Trace t failed) (hguids : (generatedGuids t).Nodup)
    (htrue : TruthfulTrace t) :
    ∃ outcomes r, outcomes.length = lrps.length ∧
      t = outcomes.map guidEvent ++
        allocationEvents lrps ((sentLRPs C lrps outcomes).map Prod.snd) r ∧
      (failed ++ left (sentLRPs C lrps outcomes) r).Perm lrps ∧
      ∀ err, r = .error err → failed = lrps := by
  rcases lrps with _ | ⟨lrp, lrps⟩
  · obtain ⟨rfl, rfl⟩ := Prog.trace_ret.mp ht
    exact ⟨[], .ok [], rfl, rfl, by simp [sentLRPs, left], fun _ _ => rfl⟩
  · rw [performLRPs, Prog.trace_bind] at ht
    obtain ⟨t₁, t₂, tr, rfl, h₁, h₂⟩ := ht
    obtain ⟨outcomes, hlen, rfl, rfl⟩ := trace_lrpsToAllocationRequestLoop h₁
    have hnd : ((sentLRPs C (lrp :: lrps) outcomes).map fun p => p.2.guid).Nodup := by
      refine (sentLRPs_guids_sublist.trans ?_).nodup hguids
      rw [generatedGuids, generatedGuids, List.filterMap_append]
      exact List.sublist_append_left _ _
    rw [List.nil_append, List.nil_append] at h₂
    obtain ⟨r, rfl, hcons, herr⟩ := failed_append_left (unsentLRPs_append_sentLRPs hlen) hnd
      (fun p hp => GoMap.lookup_putAll_of_nodup hp hnd) h₂
      fun r hr => htrue _ r (List.mem_append_right _ hr)
    exact ⟨outcomes, r, hlen, rfl, hcons, herr⟩

/-- The task half: one allocation, with the conservation law; the guids of the tasks are taken
to be distinct. -/
theorem trace_performTasks {C : Cell} {tasks : List Task} {t : List RepEvent}
    {failed : List Task} (ht : (performTasks C tasks).Trace t failed)
    (htasks : (tasks.map Task.taskGuid).Nodup) (htrue : TruthfulTrace t) :
    ∃ r, t = allocationEvents tasks ((sentTasks C tasks).map Prod.snd) r ∧
      (failed ++ left (sentTasks C tasks) r).Perm tasks ∧
      ∀ err, r = .error err → failed = tasks := by
  rcases tasks with _ | ⟨task, tasks⟩
  · obtain ⟨rfl, rfl⟩ := Prog.trace_ret.mp ht
    exact ⟨.ok [], rfl, by simp [sentTasks, left], fun _ _ => rfl⟩
  · rw [performTasks, tasksToAllocationRequests, tasksToAllocationRequestsLoop_eq,
      List.nil_append, List.nil_append] at ht
    refine failed_append_left (unsentTasks_append_sentTasks _)
      ((sentTasks_guids_sublist _).nodup htasks) (fun p hp => ?_) ht fun r hr => htrue _ r hr
    obtain ⟨hmem, hguid⟩ := of_mem_sentTasks hp
    rw [hguid]
    exact GoMap.lookup_putAll_of_nodup hmem htasks

/-- **Perform loses and duplicates no work.** An evacuating cell hands everything back
without a call. Otherwise the LRP half and the task half run one after the other and
know nothing of each other; in each, the work reported failed and the work left
allocated are together exactly the input, and a failed call returns the input
itself. -/
theorem perform_conserves_work (C : Cell) (work : Work) (t : List RepEvent) (failed : Work)
    (ht : (perform C work).Trace t failed)
    (htasks : (work.tasks.map Task.taskGuid).Nodup)
    (hguids : (generatedGuids t).Nodup) (htrue : TruthfulTrace t) :
    (t = [⟨.evacuating, true⟩] ∧ failed = work) ∨
    ∃ tl tt outcomes rl rt,
      t = ⟨.evacuating, false⟩ :: (tl ++ tt) ∧
      (performLRPs C work.lrps).Trace tl failed.lrps ∧
      (performTasks C work.tasks).Trace tt failed.tasks ∧
      outcomes.length = work.lrps.length ∧
      tl = outcomes.map guidEvent ++
        allocationEvents work.lrps ((sentLRPs C work.lrps outcomes).map Prod.snd) rl ∧
      tt = allocationEvents work.tasks ((sentTasks C work.tasks).map Prod.snd) rt ∧
      (failed.lrps ++ left (sentLRPs C work.lrps outcomes) rl).Perm work.lrps ∧
      (failed.tasks ++ left (sentTasks C work.tasks) rt).Perm work.tasks ∧
      (∀ err, rl = .error err → failed.lrps = work.lrps) ∧
      ∀ err, rt = .error err → failed.tasks = work.tasks := by
  simp only [perform, evacuating, Prog.call_bind, Prog.ret_bind, Prog.trace_call] at ht
  obtain ⟨isEvacuating, t, rfl, ht⟩ := ht
  -- the two halves are independent: each conserves its own work
  rcases isEvacuating with _ | _
  · rw [if_neg Bool.false_ne_true, Prog.trace_bind] at ht
    obtain ⟨tl, t', failedLRPs, rfl, hl, ht⟩ := ht
    rw [Prog.trace_bind] at ht
    obtain ⟨tt, t'', failedTasks, rfl, htt, ht⟩ := ht
    obtain ⟨rfl, rfl⟩ := Prog.trace_ret.mp ht
    rw [List.append_nil] at hguids htrue ⊢
    have hguidsl : (generatedGuids tl).Nodup := by
      refine List.Sublist.nodup ?_ hguids
      exact ((List.sublist_append_left tl tt).cons _).filterMap _
    obtain ⟨outcomes, rl, hlen, htl, hconsl, herrl⟩ := trace_performLRPs hl hguidsl
      fun requests r hr => htrue requests r (by simp [hr])
    obtain ⟨rt, htt', hconst, herrt⟩ := trace_performTasks htt htasks
      fun requests r hr => htrue requests r (by simp [hr])
    exact Or.inr ⟨tl, tt, outcomes, rl, rt, rfl, hl, htt, hlen, htl, htt', hconsl, hconst,
      herrl, herrt⟩
  · rw [if_pos rfl] at ht
    obtain ⟨rfl, rfl⟩ := Prog.trace_ret.mp ht
    exact Or.inl ⟨rfl, rfl⟩

/-! ### Two concrete runs

In the first one an LRP is allocated, and a task is refused by the executor and comes back;
other modules take the cell's state before and after it. In the second one work fails in
every way there is. -/

/-- One LRP and one task to place. -/
def sampleWork : Work where
  lrps := [⟨⟨"process", 3, "domain"⟩, ⟨[], [], "preloaded:linux"⟩, ⟨128, 256, 10⟩⟩]
  tasks := [⟨"task", "domain", ⟨[], [], "preloaded:linux"⟩, ⟨64, 32, 10⟩⟩]

/-- The allocation requests made for the sample work: those of the LRPs, those of the tasks. -/
def sampleRequests : List AllocationRequest × List AllocationRequest :=
  (sampleWork.lrps.map fun lrp => lrpRequest lrp "guid" "/data/rootfs/linux",
    sampleWork.tasks.map fun task => taskRequest task "/data/rootfs/linux")

/-- The calls made to place the sample work, with the executor's replies. -/
def sampleTrace : List RepEvent :=
  [⟨.evacuating, false⟩, ⟨.generateInstanceGuid, .ok "guid"⟩,
    ⟨.allocateContainers sampleRequests.1, .ok []⟩,
    ⟨.allocateContainers sampleRequests.2,
      .ok (sampleRequests.2.map fun req => ⟨req, "insufficient resources"⟩)⟩]

theorem trace_sampleWork :
    (perform Cell.sample sampleWork).Trace sampleTrace ⟨[], sampleWork.tasks⟩ :=
  .call _ (.call _ (.call _ (.call _ (.ret _))))

theorem truthfulTrace_sampleTrace : TruthfulTrace sampleTrace := by
  intro requests r h
  simp only [sampleTrace, List.mem_cons, Sigma.mk.injEq, Call.allocateContainers.injEq,
    reduceCtorEq, false_and, List.not_mem_nil, or_false, false_or] at h
  rcases h with ⟨rfl, h⟩ | ⟨rfl, h⟩
  · cases h
    exact ⟨List.nodup_nil, fun _ hg => absurd hg List.not_mem_nil⟩
  · cases h
    exact ⟨by decide, by decide⟩

/-- Four LRPs and three tasks; the second LRP and the last task name an image the cell
does not have. -/
def mixedWork : Work where
  lrps := [⟨⟨"process", 0, "domain"⟩, ⟨[], [], "preloaded:linux"⟩, ⟨128, 256, 10⟩⟩,
    ⟨⟨"process", 1, "domain"⟩, ⟨[], [], "preloaded:other"⟩, ⟨128, 256, 10⟩⟩,
    ⟨⟨"process", 2, "domain"⟩, ⟨[], [], "preloaded:linux"⟩, ⟨128, 256, 10⟩⟩,
    ⟨⟨"process", 3, "domain"⟩, ⟨[], [], "preloaded:linux"⟩, ⟨128, 256, 10⟩⟩]
  tasks := [⟨"first", "domain", ⟨[], [], "preloaded:linux"⟩, ⟨64, 32, 10⟩⟩,
    ⟨"second", "domain", ⟨[], [], "preloaded:linux"⟩, ⟨64, 32, 10⟩⟩,
    ⟨"third", "domain", ⟨[], [], "preloaded:other"⟩, ⟨64, 32, 10⟩⟩]

/-- What comes back of that work: the part that could not be placed. -/
def mixedFailed : Work := ⟨mixedWork.lrps.drop 1, [mixedWork.tasks[2], mixedWork.tasks[1]]⟩

/-- No guid is found for the third LRP. The executor is asked for the first and the last LRP
and the first two tasks, and refuses the latter one of each. -/
def mixedTrace : List RepEvent :=
  let lrpRequests := [lrpRequest mixedWork.lrps[0] "a" "/data/rootfs/linux",
    lrpRequest mixedWork.lrps[3] "c" "/data/rootfs/linux"]
  let taskRequests := [taskRequest mixedWork.tasks[0] "/data/rootfs/linux",
    taskRequest mixedWork.tasks[1] "/data/rootfs/linux"]
  [⟨.evacuating, false⟩, ⟨.generateInstanceGuid, .ok "a"⟩, ⟨.generateInstanceGuid, .ok "b"⟩,
    ⟨.generateInstanceGuid, .error (.text "no entropy")⟩, ⟨.generateInstanceGuid, .ok "c"⟩,
    ⟨.allocateContainers lrpRequests,
      .ok ((lrpRequests.drop 1).map fun req => ⟨req, "insufficient resources"⟩)⟩,
    ⟨.allocateContainers taskRequests,
      .ok ((taskRequests.drop 1).map fun req => ⟨req, "insufficient resources"⟩)⟩]

theorem trace_mixedWork : (perform Cell.sample mixedWork).Trace mixedTrace mixedFailed :=
  .call _ (.call _ (.call _ (.call _ (.call _ (.call _ (.call _ (.ret _)))))))

theorem truthfulTrace_mixedTrace : TruthfulTrace mixedTrace := by
  intro requests r h
  simp only [mixedTrace, List.mem_cons, Sigma.mk.injEq, Call.allocateContainers.injEq,
    reduceCtorEq, false_and, List.not_mem_nil, or_false, false_or] at h
  rcases h with ⟨rfl, h⟩ | ⟨rfl, h⟩
  · cases h
    exact ⟨by decide, by decide⟩
  · cases h
    exact ⟨by decide, by decide⟩

/-- **The conservation law on the mixed run**: of four LRPs and three tasks one each is
left allocated and the others are handed back, each once. -/
theorem perform_conserves_mixedWork :
    ∃ outcomes rl rt,
      outcomes.length = 4 ∧
      (mixedWork.lrps.drop 1 ++ left (sentLRPs Cell.sample mixedWork.lrps outcomes) rl).Perm
        mixedWork.lrps ∧
      (mixedFailed.tasks ++ left (sentTasks Cell.sample mixedWork.tasks) rt).Perm
        mixedWork.tasks := by
  obtain ⟨h, -⟩ | ⟨_, _, outcomes, rl, rt, _, _, _, hlen, _, _, hl, htt, _, _⟩ :=
    perform_conserves_work Cell.sample mixedWork mixedTrace mixedFailed
      trace_mixedWork (by decide) (by decide) truthfulTrace_mixedTrace
  · cases h
  · exact ⟨outcomes, rl, rt, hlen, hl, htt⟩

end CellRep
