import CellRep.Generator

/-!
# A batch is complete and exact

What `batchOperations` makes of three answers. The first part follows the three reads
through any order and says which operation each guid gets (`kindOf`). The second part
runs the residual operations of a batch: whatever the order, the BBS is asked to
remove exactly the records and to fail exactly the tasks that have no container.

The link between the two is `lookup_assemble`: four walks over unordered maps are one
formula with the priorities spelled out.
-/

namespace CellRep

open Models (ActualLRP ActualLRPGroup)
open Executor (Container)

/-! ## The reads

The three goroutines do not see each other, so a batch is determined by the three answers; the
order in which the calls were made shows in the trace and in the choice of an error, and
nowhere else. -/

/-- The call of a read, with its answer. The trace of a batch is a list of these three. -/
def readEvent (C : Cell) (found : Found) : Read → RepEvent
  | .containers => ⟨.listContainers, found.containers⟩
  | .lrps => ⟨.actualLRPGroups C.cellID, found.groups⟩
  | .tasks => ⟨.tasksByCellID C.cellID, found.tasks⟩

/-- One read is one call; its answer is kept and the other answers stay. -/
theorem trace_readOne {C : Cell} {found found' : Found} {r : Read} {t : List RepEvent}
    (h : (readOne C found r).Trace t found') :
    t = [readEvent C found' r] ∧ ∀ r', r' ≠ r → readEvent C found' r' = readEvent C found r' := by
  -- the three reads differ in the field they write, and the proof in nothing else
  cases r with
  | containers =>
    simp only [readOne, Client.listContainers, Prog.call_bind, Prog.ret_bind, Prog.pure_eq,
      Prog.trace_call, Prog.trace_ret] at h
    obtain ⟨reply, t', rfl, rfl, rfl⟩ := h
    refine ⟨rfl, ?_⟩
    intro r' hne
    cases r' with
    | containers => exact absurd rfl hne
    | lrps => rfl
    | tasks => rfl
  | lrps =>
    simp only [readOne, Bbs.actualLRPGroups, Prog.call_bind, Prog.ret_bind, Prog.pure_eq,
      Prog.trace_call, Prog.trace_ret] at h
    obtain ⟨reply, t', rfl, rfl, rfl⟩ := h
    refine ⟨rfl, ?_⟩
    intro r' hne
    cases r' with
    | containers => rfl
    | lrps => exact absurd rfl hne
    | tasks => rfl
  | tasks =>
    simp only [readOne, Bbs.tasksByCellID, Prog.call_bind, Prog.ret_bind, Prog.pure_eq,
      Prog.trace_call, Prog.trace_ret] at h
    obtain ⟨reply, t', rfl, rfl, rfl⟩ := h
    refine ⟨rfl, ?_⟩
    intro r' hne
    cases r' with
    | containers => rfl
    | lrps => rfl
    | tasks => exact absurd rfl hne

/-- Distinct reads, in any order: each is called once, and what is found in the end holds the
answer to every one of them. The induction carries along that reads which are still to come do
not overwrite what is there. -/
theorem trace_readAll {C : Cell} {rs : List Read} :
    ∀ {found found' : Found} {t : List RepEvent}, rs.Nodup →
      (readAll C found rs).Trace t found' →
      t = rs.map (readEvent C found') ∧
        ∀ r, r ∉ rs → readEvent C found' r = readEvent C found r := by
  induction rs with
  | nil =>
    intro found found' t _ h
    obtain ⟨rfl, rfl⟩ := Prog.trace_ret.mp h
    exact ⟨rfl, fun _ _ => rfl⟩
  | cons r rs ih =>
    intro found found' t hnd h
    obtain ⟨hr, hnd⟩ := List.nodup_cons.mp hnd
    rw [readAll, Prog.trace_bind] at h
    obtain ⟨t₁, t₂, found₁, rfl, h₁, h₂⟩ := h
    obtain ⟨rfl, hone⟩ := trace_readOne h₁
    obtain ⟨rfl, hrest⟩ := ih hnd h₂
    refine ⟨by rw [List.map_cons, hrest r hr]; rfl, ?_⟩
    intro r' hr'
    rw [List.mem_cons, not_or] at hr'
    rw [hrest r' hr'.2, hone r' hr'.1]

/-- **A batch makes the three reads, in the order of the schedule, and resolves what they
found.** It makes no other call. -/
theorem trace_batchOperations {C : Cell} {s : Schedule} {t : List RepEvent}
    {res : Except Err (GoMap String Operation)} (h : (batchOperations C s).Trace t res) :
    ∃ found : Found, t = s.reads.map (readEvent C found) ∧ res = resolve C s found := by
  rw [batchOperations, Prog.trace_bind] at h
  obtain ⟨t₁, t₂, found, rfl, h₁, h₂⟩ := h
  obtain ⟨rfl, rfl⟩ := Prog.trace_ret.mp h₂
  have hnd : s.reads.Nodup := s.reads_perm.nodup_iff.mpr (by decide)
  exact ⟨found, by rw [(trace_readAll hnd h₁).1, List.append_nil], rfl⟩

theorem Schedule.mem_sends (s : Schedule) (r : Read) : r ∈ s.sends := by
  apply s.sends_perm.mem_iff.mpr
  cases r <;> decide

/-- A read that failed leaves no batch, whichever error arrives first. -/
theorem resolve_error {C : Cell} {s : Schedule} {found : Found} {r : Read}
    (h : (found.error C.ext r).isSome) : ∃ err, resolve C s found = .error err := by
  have hsome : (s.sends.findSome? (found.error C.ext)).isSome :=
    List.findSome?_isSome_iff.mpr ⟨r, s.mem_sends r, h⟩
  obtain ⟨err, herr⟩ := Option.isSome_iff_exists.mp hsome
  exact ⟨err, by rw [resolve, herr]⟩

/-- Three answers make a batch, since there is no error to be found among them. -/
theorem resolve_ok (C : Cell) (s : Schedule) (cs : List Container) (gs : List ActualLRPGroup)
    (ts : List Models.Task) : resolve C s ⟨.ok cs, .ok gs, .ok ts⟩ = .ok (assemble s cs gs ts) := by
  have hnone : s.sends.findSome? (Found.error C.ext ⟨.ok cs, .ok gs, .ok ts⟩) = none := by
    refine List.findSome?_eq_none_iff.mpr fun r _ => ?_
    cases r <;> rfl
  rw [resolve, hnone]
  rfl

/-- A batch was made of three answers: the converse, by which a sync that queued something is
known to have read everything. -/
theorem ok_of_resolve {C : Cell} {s : Schedule} {found : Found} {batch : GoMap String Operation}
    (h : resolve C s found = .ok batch) :
    ∃ cs gs ts, found = ⟨.ok cs, .ok gs, .ok ts⟩ ∧ batch = assemble s cs gs ts := by
  have hnone : ∀ r, ¬ (found.error C.ext r).isSome := fun r hr => by
    obtain ⟨err, herr⟩ := resolve_error (s := s) hr
    rw [h] at herr
    cases herr
  obtain ⟨containers, groups, tasks⟩ := found
  cases containers with
  | error err => exact absurd rfl (hnone .containers)
  | ok cs =>
    cases groups with
    | error err => exact absurd rfl (hnone .lrps)
    | ok gs =>
      cases tasks with
      | error err => exact absurd rfl (hnone .tasks)
      | ok ts =>
        rw [resolve_ok] at h
        exact ⟨cs, gs, ts, rfl, (Except.ok.inj h).symm⟩

/-! ## Which operation a guid gets

The specification comes first: `kindOf` decides by looking at the three answers, with the
priorities spelled out and no map in sight. `lookup_assemble` then computes the batch the code
builds, and `Origin` records what an operation in it was made from; all further facts about
batches are read off the origin. -/

/-- The kinds of operation, without the data they carry. -/
inductive Kind : Type where
  | container : Kind
  | residualJoint : Kind
  | residualInstance : Kind
  | residualEvacuating : Kind
  | residualTask : Kind
  deriving DecidableEq

/-- The kind of an operation, which is what a batch chooses for each guid. -/
def Operation.kind : Operation → Kind
  | .container _ => .container
  | .residualInstance _ _ => .residualInstance
  | .residualEvacuating _ _ => .residualEvacuating
  | .residualJoint _ _ => .residualJoint
  | .residualTask _ => .residualTask

section Answers

variable (cs : List Container) (gs : List ActualLRPGroup) (ts : List Models.Task)

/-- The guid has a container, in the answer of the executor. -/
def HasContainer (guid : String) : Prop := ∃ container ∈ cs, container.guid = guid

/-- The guid is that of an instance record. The group of the record does not matter. -/
def HasInstance (guid : String) : Prop := ∃ lrp ∈ instanceRecords gs, recordGuid lrp = guid

/-- The guid is that of an evacuating record, possibly of another group than the instance
record of the same guid. -/
def HasEvacuating (guid : String) : Prop := ∃ lrp ∈ evacuatingRecords gs, recordGuid lrp = guid

/-- The guid is that of a task. -/
def HasTask (guid : String) : Prop := ∃ task ∈ ts, task.taskGuid = guid

instance (guid : String) : Decidable (HasContainer cs guid) :=
  inferInstanceAs (Decidable (∃ container ∈ cs, container.guid = guid))

instance (guid : String) : Decidable (HasInstance gs guid) :=
  inferInstanceAs (Decidable (∃ lrp ∈ instanceRecords gs, recordGuid lrp = guid))

instance (guid : String) : Decidable (HasEvacuating gs guid) :=
  inferInstanceAs (Decidable (∃ lrp ∈ evacuatingRecords gs, recordGuid lrp = guid))

instance (guid : String) : Decidable (HasTask ts guid) :=
  inferInstanceAs (Decidable (∃ task ∈ ts, task.taskGuid = guid))

/-- The kind of operation a guid is to get, if any. A container comes before everything else,
a joint operation before the two it stands for, and a task comes last. -/
def kindOf (guid : String) : Option Kind :=
  if HasContainer cs guid then some .container
  else if HasInstance gs guid ∧ HasEvacuating gs guid then some .residualJoint
  else if HasInstance gs guid then some .residualInstance
  else if HasEvacuating gs guid then some .residualEvacuating
  else if HasTask ts guid then some .residualTask
  else none

/-- The instance records by guid, as the code files them. -/
def instanceMap : GoMap String ActualLRP := GoMap.putAll recordGuid id ∅ (instanceRecords gs)

/-- The evacuating records by guid, as the code files them. -/
def evacuatingMap : GoMap String ActualLRP := GoMap.putAll recordGuid id ∅ (evacuatingRecords gs)

variable {cs gs ts}

/-- Walking over the containers makes one operation for each of them. The operation carries
the guid only, so it does not matter which container of a guid was filed last. -/
theorem lookup_containerOperations {m : GoMap String Container} (v : GoMap.Visit m)
    (guid : String) :
    (GoMap.putAll (fun e : (_ : String) × Container => e.1)
      (fun e => Operation.container e.1) (∅ : GoMap String Operation) v.entries).lookup guid =
      if guid ∈ m then some (.container guid) else none := by
  by_cases hguid : guid ∈ m
  · rw [if_pos hguid]
    exact GoMap.lookup_putAll (v.mem_iff.mp hguid) fun e _ he => by rw [he]
  · have hnot : ∀ e ∈ v.entries, e.1 ≠ guid := fun e he hk => hguid (v.mem_iff.mpr ⟨e, he, hk⟩)
    rw [if_neg hguid, GoMap.lookup_putAll_of_notMem hnot]
    rfl

/-- **The batch as a formula**: whatever the orders of the walks, a guid gets the
operation of the first of the four maps that knows it. -/
theorem lookup_assemble (s : Schedule) (guid : String) :
    (assemble s cs gs ts).lookup guid =
      if HasContainer cs guid then some (.container guid)
      else (((instanceMap gs).lookup guid).map (instanceOperation (evacuatingMap gs) guid)).or
        ((((evacuatingMap gs).lookup guid).map fun lrp =>
          Operation.residualEvacuating lrp.key lrp.instanceKey).or
        (if HasTask ts guid then some (.residualTask guid) else none)) := by
  have htask : ((GoMap.putAll Models.Task.taskGuid id (∅ : GoMap String Models.Task) ts).lookup
      guid).map (fun _ => Operation.residualTask guid) =
        if HasTask ts guid then some (.residualTask guid) else none := by
    by_cases h : HasTask ts guid
    · rw [if_pos h]
      obtain ⟨task, hlookup⟩ := Option.isSome_iff_exists.mp
        (AList.lookup_isSome.mpr (GoMap.mem_putAll_empty.mpr h))
      rw [hlookup]
      rfl
    · rw [if_neg h, AList.lookup_eq_none.mpr fun hmem => h (GoMap.mem_putAll_empty.mp hmem)]
      rfl
  simp only [assemble, GoMap.lookup_fill, lookup_containerOperations, htask, Option.or_assoc]
  by_cases hc : HasContainer cs guid
  · rw [if_pos hc, if_pos (GoMap.mem_putAll_empty.mpr hc), Option.some_or]
  · rw [if_neg hc, if_neg fun hmem => hc (GoMap.mem_putAll_empty.mp hmem), Option.none_or]
    rfl

/-- What an operation of the batch was made from: the guid it is for, the record whose keys it
carries, and why none of the maps before had the guid. There is one constructor for each kind
of operation. -/
inductive Origin (cs : List Container) (gs : List ActualLRPGroup) (ts : List Models.Task)
    (guid : String) : Operation → Prop where
  | container : HasContainer cs guid → Origin cs gs ts guid (.container guid)
  | joint {lrp : ActualLRP} : ¬ HasContainer cs guid → lrp ∈ instanceRecords gs →
      recordGuid lrp = guid → HasEvacuating gs guid →
      Origin cs gs ts guid (.residualJoint lrp.key lrp.instanceKey)
  | instance_ {lrp : ActualLRP} : ¬ HasContainer cs guid → lrp ∈ instanceRecords gs →
      recordGuid lrp = guid → ¬ HasEvacuating gs guid →
      Origin cs gs ts guid (.residualInstance lrp.key lrp.instanceKey)
  | evacuating {lrp : ActualLRP} : ¬ HasContainer cs guid → ¬ HasInstance gs guid →
      lrp ∈ evacuatingRecords gs → recordGuid lrp = guid →
      Origin cs gs ts guid (.residualEvacuating lrp.key lrp.instanceKey)
  | task : ¬ HasContainer cs guid → ¬ HasInstance gs guid → ¬ HasEvacuating gs guid →
      HasTask ts guid → Origin cs gs ts guid (.residualTask guid)

/-- Every operation of a batch has an origin, and a guid without one has a place in no answer.
The case split follows the four maps in the order of their priority. -/
theorem assemble_cases (s : Schedule) (guid : String) :
    (∃ op, (assemble s cs gs ts).lookup guid = some op ∧ Origin cs gs ts guid op) ∨
      ((assemble s cs gs ts).lookup guid = none ∧ ¬ HasContainer cs guid ∧
        ¬ HasInstance gs guid ∧ ¬ HasEvacuating gs guid ∧ ¬ HasTask ts guid) := by
  -- each `or` of the formula is one map, and falls through when the map does not have the
  -- guid
  rw [lookup_assemble]
  by_cases hc : HasContainer cs guid
  · rw [if_pos hc]
    exact Or.inl ⟨_, rfl, .container hc⟩
  rw [if_neg hc]
  rcases hi : (instanceMap gs).lookup guid with _ | lrp
  · have hi' : ¬ HasInstance gs guid := fun h =>
      AList.lookup_eq_none.mp hi (GoMap.mem_putAll_empty.mpr h)
    rw [Option.map_none, Option.none_or]
    rcases he : (evacuatingMap gs).lookup guid with _ | lrp
    · have he' : ¬ HasEvacuating gs guid := fun h =>
        AList.lookup_eq_none.mp he (GoMap.mem_putAll_empty.mpr h)
      rw [Option.map_none, Option.none_or]
      by_cases ht : HasTask ts guid
      · rw [if_pos ht]
        exact Or.inl ⟨_, rfl, .task hc hi' he' ht⟩
      · rw [if_neg ht]
        exact Or.inr ⟨rfl, hc, hi', he', ht⟩
    · obtain ⟨hmem, hguid⟩ := GoMap.of_lookup_putAll_empty he
      exact Or.inl ⟨_, rfl, .evacuating hc hi' hmem hguid⟩
  · obtain ⟨hmem, hguid⟩ := GoMap.of_lookup_putAll_empty hi
    rw [Option.map_some, Option.some_or]
    by_cases he : guid ∈ evacuatingMap gs
    · rw [instanceOperation, if_pos he]
      exact Or.inl ⟨_, rfl, .joint hc hmem hguid (GoMap.mem_putAll_empty.mp he)⟩
    · rw [instanceOperation, if_neg he]
      exact Or.inl ⟨_, rfl, .instance_ hc hmem hguid fun h => he (GoMap.mem_putAll_empty.mpr h)⟩

/-- The origin of an operation decides its kind. -/
theorem Origin.kind {guid : String} {op : Operation} (h : Origin cs gs ts guid op) :
    kindOf cs gs ts guid = some op.kind := by
  cases h with
  | container hc => rw [kindOf, if_pos hc]; rfl
  | joint hc hmem hguid he =>
    rw [kindOf, if_neg hc, if_pos ⟨⟨_, hmem, hguid⟩, he⟩]
    rfl
  | instance_ hc hmem hguid he =>
    rw [kindOf, if_neg hc, if_neg fun h => he h.2, if_pos ⟨_, hmem, hguid⟩]
    rfl
  | evacuating hc hi hmem hguid =>
    rw [kindOf, if_neg hc, if_neg fun h => hi h.1, if_neg hi, if_pos ⟨_, hmem, hguid⟩]
    rfl
  | task hc hi he ht =>
    rw [kindOf, if_neg hc, if_neg fun h => hi h.1, if_neg hi, if_neg he, if_pos ht]
    rfl

/-- An operation is queued under the guid it was made for. The queue orders by this key, so
operations for one container never overlap. -/
theorem Origin.key {guid : String} {op : Operation} (h : Origin cs gs ts guid op) :
    op.key = guid := by
  cases h with
  | container => rfl
  | joint _ _ hguid => exact hguid
  | instance_ _ _ hguid => exact hguid
  | evacuating _ _ _ hguid => exact hguid
  | task => rfl

/-- An operation found in a batch has an origin. -/
theorem origin_of_lookup {s : Schedule} {guid : String} {op : Operation}
    (h : (assemble s cs gs ts).lookup guid = some op) : Origin cs gs ts guid op := by
  rcases @assemble_cases cs gs ts s guid with ⟨op', hop', ho⟩ | ⟨hnone, -⟩
  · rw [h] at hop'
    obtain rfl := Option.some.inj hop'
    exact ho
  · rw [h] at hnone
    cases hnone

/-- **The batch knows exactly the guids of the three answers.** -/
theorem mem_assemble (s : Schedule) (guid : String) :
    guid ∈ assemble s cs gs ts ↔
      HasContainer cs guid ∨ HasInstance gs guid ∨ HasEvacuating gs guid ∨ HasTask ts guid := by
  rw [← AList.lookup_isSome]
  rcases @assemble_cases cs gs ts s guid with
    ⟨op, hop, ho⟩ | ⟨hnone, hc, hi, he, ht⟩
  · rw [hop]
    refine ⟨?_, fun _ => rfl⟩
    intro _
    cases ho with
    | container hc => exact Or.inl hc
    | joint _ hmem hguid _ => exact Or.inr (Or.inl ⟨_, hmem, hguid⟩)
    | instance_ _ hmem hguid _ => exact Or.inr (Or.inl ⟨_, hmem, hguid⟩)
    | evacuating _ _ hmem hguid => exact Or.inr (Or.inr (Or.inl ⟨_, hmem, hguid⟩))
    | task _ _ _ ht => exact Or.inr (Or.inr (Or.inr ht))
  · rw [hnone]
    refine ⟨fun h => (Bool.false_ne_true h).elim, ?_⟩
    intro h
    rcases h with h | h | h | h
    · exact absurd h hc
    · exact absurd h hi
    · exact absurd h he
    · exact absurd h ht

end Answers

/-! ## The sync

A rule for ghost specifications: an invariant of the reads, from which every operation
of the batch may be queued. -/

section

universe u

variable {C : Cell} {γ : Type u} {S : Spec Call Reply γ} {I : γ → Found → Prop}

/-- The reads keep what each of them keeps, in any order. -/
theorem wp_readAll
    (hread : ∀ g found r, I g found → (readOne C found r).wp S I g) {rs : List Read} :
    ∀ {found : Found} {g : γ}, I g found → (readAll C found rs).wp S I g := by
  induction rs with
  | nil => exact fun h => h
  | cons r rs ih =>
    intro found g h
    exact Prog.wp_bind.mpr (Prog.wp_mono (fun g found hfound => ih hfound) (hread g found r h))

/-- Queueing leaves the ghost state alone, so each operation is licensed by the same one. -/
theorem wp_pushAll {ops : List Operation} {g : γ}
    (hpush : ∀ op ∈ ops, S.pre g (.push op) ∧ ∀ r, S.next g (.push op) r = g) :
    (pushAll ops).wp S (fun _ _ => True) g := by
  induction ops with
  | nil => trivial
  | cons op ops ih =>
    obtain ⟨hpre, hnext⟩ := hpush op (List.mem_cons_self ..)
    refine ⟨hpre, ?_⟩
    intro r _
    rw [hnext]
    exact ih fun op' hop' => hpush op' (List.mem_cons_of_mem _ hop')

/-- **A sync queues what the origins of the batch allow.** A proof about a sync has to say
what its reads establish and why an operation of a given origin may be queued, and nothing
about maps or orders. -/
theorem wp_sync {s : Schedule} {g : γ} (hempty : I g Found.empty)
    (hread : ∀ g found r, I g found → (readOne C found r).wp S I g)
    (hpush : ∀ g cs gs ts guid op, I g ⟨.ok cs, .ok gs, .ok ts⟩ → Origin cs gs ts guid op →
      S.pre g (.push op) ∧ ∀ r, S.next g (.push op) r = g) :
    (sync C s).wp S (fun _ _ => True) g := by
  refine Prog.wp_bind.mpr (Prog.wp_bind.mpr (Prog.wp_mono (fun g found hfound => ?_)
    (wp_readAll hread hempty)))
  rcases hres : resolve C s found with err | batch
  · trivial
  · obtain ⟨cs, gs, ts, rfl, rfl⟩ := ok_of_resolve hres
    apply wp_pushAll
    intro op hop
    obtain ⟨e, he, rfl⟩ := List.mem_map.mp hop
    have hlookup : (assemble s cs gs ts).lookup e.1 = some e.2 :=
      AList.mem_lookup_iff.mpr ((s.visitBatch _).perm.mem_iff.mp he)
    exact hpush g cs gs ts e.1 e.2 hfound (origin_of_lookup hlookup)

end

/-! ## Running the residual operations

A residual operation looks for the container once more and then asks the BBS to remove a
record or to fail a task. Which requests it makes is fixed by its data; the only reply that
matters is the one to the first call. -/

/-- The operation works on something that has no container, according to the batch. -/
def Operation.isResidual (op : Operation) : Bool := op.kind ≠ .container

/-- The residual operations of a batch, in the order in which the batch stores them. -/
def residualOperations (batch : GoMap String Operation) : List Operation :=
  (batch.entries.map fun e => e.2).filter Operation.isResidual

/-- Run operations one after the other. The queue may run them side by side; for requests to
the BBS, which do not depend on each other, a row in any order says the same. -/
def executeAll (C : Cell) : List Operation → RepM Unit
  | [] => return
  | op :: ops => do
    op.execute C
    executeAll C ops

/-- The executor still has exactly the containers `cs`, as far as the trace asks. Without it
nothing could be said: a container may come or go between the batch and the operation. -/
def Unchanged (cs : List Container) (t : List RepEvent) : Prop :=
  ∀ guid (r : Except Err Container), (⟨.getContainer guid, r⟩ : RepEvent) ∈ t →
    (r.toOption.isSome ↔ HasContainer cs guid)

/-- The calls of a trace other than looking for a container: what is asked of the BBS. -/
def otherCalls (t : List RepEvent) : List Call :=
  (t.map Sigma.fst).filter fun c =>
    match c with
    | .getContainer _ => false
    | _ => true

/-- What a residual operation asks of the BBS when there is no container. The joint operation
asks for both removals, under the one pair of keys it carries. -/
def Operation.requests : Operation → List Call
  | .container _ => []
  | .residualInstance key instanceKey =>
    [.removeActualLRP key.processGuid key.index.toInt64 instanceKey]
  | .residualEvacuating key instanceKey => [.removeEvacuatingActualLRP key instanceKey]
  | .residualJoint key instanceKey =>
    [.removeActualLRP key.processGuid key.index.toInt64 instanceKey,
      .removeEvacuatingActualLRP key instanceKey]
  | .residualTask taskGuid => [.failTask taskGuid TaskProcessor.reasonMissingContainer]

theorem otherCalls_append (t₁ t₂ : List RepEvent) :
    otherCalls (t₁ ++ t₂) = otherCalls t₁ ++ otherCalls t₂ := by
  simp [otherCalls]

theorem map_fst_of_call {c : Call} {t : List RepEvent}
    (h : (Prog.call c fun _ => .ret () : RepM Unit).Trace t ()) : t.map Sigma.fst = [c] := by
  obtain ⟨r, t', rfl, hret⟩ := Prog.trace_call.mp h
  obtain ⟨rfl, -⟩ := Prog.trace_ret.mp hret
  rfl

/-- An action with fixed requests that runs only when its container is not found. All four
residual operations are of this form, so the case split on the look is made here. -/
theorem requests_of_ifAbsent {guid : String} {act : RepM Unit} {requests : List Call}
    {t : List RepEvent}
    (ht : (do match ← Delegate.getContainer guid with
              | some _ => return
              | none => act : RepM Unit).Trace t ())
    (hact : ∀ t', act.Trace t' () → t'.map Sigma.fst = requests) :
    (∃ container : Container, t = [⟨.getContainer guid, .ok container⟩]) ∨
    ∃ (err : Err) (t' : List RepEvent),
      t = ⟨.getContainer guid, .error err⟩ :: t' ∧ t'.map Sigma.fst = requests := by
  rcases Delegate.trace_ifAbsent.mp ht with hfound | ⟨err, t', rfl, hrun⟩
  · exact Or.inl hfound
  · exact Or.inr ⟨err, t', rfl, hact t' hrun⟩

/-- A residual operation looks for a container under its key. It ends when there is
one, and makes its requests on any error. -/
theorem trace_residual {C : Cell} {op : Operation} {t : List RepEvent} (hres : op.isResidual)
    (ht : (op.execute C).Trace t ()) :
    (∃ container : Container, t = [⟨.getContainer op.key, .ok container⟩]) ∨
    ∃ (err : Err) (t' : List RepEvent),
      t = ⟨.getContainer op.key, .error err⟩ :: t' ∧ t'.map Sigma.fst = op.requests := by
  cases op with
  | container => cases hres
  | residualInstance => exact requests_of_ifAbsent ht fun _ => map_fst_of_call
  | residualEvacuating => exact requests_of_ifAbsent ht fun _ => map_fst_of_call
  | residualJoint =>
    refine requests_of_ifAbsent ht ?_
    intro t' hact
    obtain ⟨r, t'', rfl, hrest⟩ := Prog.trace_call.mp hact
    rw [List.map_cons, map_fst_of_call hrest]
    rfl
  | residualTask => exact requests_of_ifAbsent ht fun _ => map_fst_of_call

/-- The requests are none of them a look for a container, so filtering the looks out leaves
them as they are. -/
theorem otherCalls_of_requests {op : Operation} {err : Err} {t : List RepEvent}
    (ht : t.map Sigma.fst = op.requests) :
    otherCalls (⟨.getContainer op.key, .error err⟩ :: t) = op.requests := by
  rw [otherCalls, List.map_cons, ht]
  cases op with
  | container => rfl
  | residualInstance => rfl
  | residualEvacuating => rfl
  | residualJoint => rfl
  | residualTask => rfl

/-- Without a container under its key, a residual operation makes exactly its requests. -/
theorem otherCalls_execute {C : Cell} {cs : List Container} {op : Operation} {t : List RepEvent}
    (hres : op.isResidual) (hno : ¬ HasContainer cs op.key) (ht : (op.execute C).Trace t ())
    (hun : Unchanged cs t) : otherCalls t = op.requests := by
  rcases trace_residual hres ht with ⟨container, rfl⟩ | ⟨err, t', rfl, hrequests⟩
  · exact absurd ((hun op.key (.ok container) (List.mem_cons_self ..)).mp rfl) hno
  · exact otherCalls_of_requests hrequests

/-- Run in a row, they ask for what each of them asks for. -/
theorem otherCalls_executeAll {C : Cell} {cs : List Container} {ops : List Operation} :
    ∀ {t : List RepEvent}, (∀ op ∈ ops, op.isResidual ∧ ¬ HasContainer cs op.key) →
      (executeAll C ops).Trace t () → Unchanged cs t →
      otherCalls t = ops.flatMap Operation.requests := by
  induction ops with
  | nil =>
    intro t _ ht _
    obtain ⟨rfl, -⟩ := Prog.trace_ret.mp ht
    rfl
  | cons op ops ih =>
    intro t hops ht hun
    rw [executeAll, Prog.trace_bind] at ht
    obtain ⟨t₁, t₂, u, rfl, h₁, h₂⟩ := ht
    obtain ⟨hres, hno⟩ := hops op (List.mem_cons_self ..)
    rw [otherCalls_append, List.flatMap_cons,
      otherCalls_execute hres hno h₁ fun g r h => hun g r (List.mem_append_left _ h),
      ih (fun op' h => hops op' (List.mem_cons_of_mem _ h)) h₂
        fun g r h => hun g r (List.mem_append_right _ h)]

/-! ## Exactness

What is due is stated from the answers alone: a removal for every record without a container
and a failure for every task without one. The two lists, the requests that are made and those
that are due, have the same elements and no repetitions, and so they are permutations of each
other. -/

section Exact

variable (cs : List Container) (gs : List ActualLRPGroup) (ts : List Models.Task)

/-- The removals and failures that are due: one for every instance record, every
evacuating record and every task without a container. -/
def dueCalls : List Call :=
  ((instanceRecords gs).filter fun lrp => ¬ HasContainer cs (recordGuid lrp)).map (fun lrp =>
    Call.removeActualLRP lrp.key.processGuid lrp.key.index.toInt64 lrp.instanceKey) ++
  (((evacuatingRecords gs).filter fun lrp => ¬ HasContainer cs (recordGuid lrp)).map (fun lrp =>
    Call.removeEvacuatingActualLRP lrp.key lrp.instanceKey) ++
  (ts.filter fun task => ¬ HasContainer cs task.taskGuid).map (fun task =>
    Call.failTask task.taskGuid TaskProcessor.reasonMissingContainer))

/-- What the BBS keeps true of its records: a guid names one instance record, one evacuating
record, or one task; the two records of a guid agree on their key; and a request for this
cell's records is answered with this cell's records. The last one matters to the joint
operation, which removes the evacuating record under the instance record's instance key. -/
structure WellKept (cellID : String) (gs : List ActualLRPGroup) (ts : List Models.Task) :
    Prop where
  instances : ((instanceRecords gs).map recordGuid).Nodup
  evacuating : ((evacuatingRecords gs).map recordGuid).Nodup
  same_key : ∀ lrp ∈ instanceRecords gs, ∀ lrp' ∈ evacuatingRecords gs,
    recordGuid lrp = recordGuid lrp' → lrp.key = lrp'.key
  own : ∀ lrp ∈ instanceRecords gs ++ evacuatingRecords gs, lrp.instanceKey.cellId = cellID
  tasks : (ts.map Models.Task.taskGuid).Nodup
  disjoint : ∀ task ∈ ts, ¬ HasInstance gs task.taskGuid ∧ ¬ HasEvacuating gs task.taskGuid

variable {cs gs ts}

/-- Two records of this cell with one guid have one instance key. -/
theorem WellKept.instanceKey_eq {cellID : String} (h : WellKept cellID gs ts) {lrp lrp' : ActualLRP}
    (hl : lrp ∈ instanceRecords gs ++ evacuatingRecords gs)
    (hl' : lrp' ∈ instanceRecords gs ++ evacuatingRecords gs)
    (hguid : recordGuid lrp = recordGuid lrp') : lrp.instanceKey = lrp'.instanceKey := by
  have hcell : lrp.instanceKey.cellId = lrp'.instanceKey.cellId :=
    (h.own lrp hl).trans (h.own lrp' hl').symm
  rcases hk : lrp.instanceKey with ⟨g, c⟩
  rcases hk' : lrp'.instanceKey with ⟨g', c'⟩
  rw [hk, hk'] at hcell
  simp only [recordGuid, lrpContainerGuid, hk, hk'] at hguid
  simp only at hcell
  rw [hguid, hcell]

/-- A residual operation of the batch, with the guid it is found under: its own key. -/
theorem mem_residualOperations {s : Schedule} {op : Operation} :
    op ∈ residualOperations (assemble s cs gs ts) ↔
      (assemble s cs gs ts).lookup op.key = some op ∧ op.isResidual := by
  rw [residualOperations, List.mem_filter, List.mem_map]
  refine and_congr_left fun _ => ⟨?_, fun h => ⟨⟨op.key, op⟩, AList.mem_lookup_iff.mp h, rfl⟩⟩
  rintro ⟨⟨guid, op'⟩, hmem, rfl⟩
  have hlookup := AList.mem_lookup_iff.mpr hmem
  rwa [(origin_of_lookup hlookup).key]

/-- A residual operation has no container, by its origin. -/
theorem Origin.no_container {guid : String} {op : Operation} (h : Origin cs gs ts guid op)
    (hres : op.isResidual) : ¬ HasContainer cs guid := by
  cases h with
  | container => cases hres
  | joint hc => exact hc
  | instance_ hc => exact hc
  | evacuating hc => exact hc
  | task hc => exact hc

/-- A call is due for one of three reasons: an instance record, an evacuating record or a task
without a container. -/
theorem mem_dueCalls {c : Call} : c ∈ dueCalls cs gs ts ↔
    (∃ lrp ∈ instanceRecords gs, ¬ HasContainer cs (recordGuid lrp) ∧
      c = .removeActualLRP lrp.key.processGuid lrp.key.index.toInt64 lrp.instanceKey) ∨
    (∃ lrp ∈ evacuatingRecords gs, ¬ HasContainer cs (recordGuid lrp) ∧
      c = .removeEvacuatingActualLRP lrp.key lrp.instanceKey) ∨
    ∃ task ∈ ts, ¬ HasContainer cs task.taskGuid ∧
      c = .failTask task.taskGuid TaskProcessor.reasonMissingContainer := by
  simp only [dueCalls, List.mem_append, List.mem_map, List.mem_filter, decide_eq_true_eq,
    and_assoc, eq_comm (a := c)]

/-- What an operation asks for is due. Only the joint operation needs the assumptions on the
records, because it speaks of two records and carries the keys of one. -/
theorem Origin.requests_due {cellID : String} (hkept : WellKept cellID gs ts) {guid : String}
    {op : Operation} (h : Origin cs gs ts guid op) :
    ∀ c ∈ op.requests, c ∈ dueCalls cs gs ts := by
  intro c hc
  rw [mem_dueCalls]
  cases h with
  | container => exact absurd hc List.not_mem_nil
  | @joint lrp hno hmem hguid he =>
    -- the operation carries the keys of the instance record, and the evacuating one has the
    -- same
    obtain ⟨lrp', hmem', hguid'⟩ := he
    subst hguid
    have hkey := hkept.same_key lrp hmem lrp' hmem' hguid'.symm
    have hik := hkept.instanceKey_eq (List.mem_append_left _ hmem) (List.mem_append_right _ hmem')
      hguid'.symm
    rcases List.mem_cons.mp hc with rfl | hc
    · exact Or.inl ⟨lrp, hmem, hno, rfl⟩
    · rw [List.mem_singleton, hkey, hik] at hc
      rw [← hguid'] at hno
      exact Or.inr (Or.inl ⟨lrp', hmem', hno, hc⟩)
  | @instance_ lrp hno hmem hguid _ =>
    subst hguid
    exact Or.inl ⟨lrp, hmem, hno, List.mem_singleton.mp hc⟩
  | @evacuating lrp hno _ hmem hguid =>
    subst hguid
    exact Or.inr (Or.inl ⟨lrp, hmem, hno, List.mem_singleton.mp hc⟩)
  | task hno _ _ ht =>
    obtain ⟨task, hmem, rfl⟩ := ht
    exact Or.inr (Or.inr ⟨task, hmem, hno, List.mem_singleton.mp hc⟩)

/-- A guid without a container that some record names has a residual operation, of one kind or
another. -/
theorem exists_residual (s : Schedule) {guid : String} (hno : ¬ HasContainer cs guid)
    (hin : HasInstance gs guid ∨ HasEvacuating gs guid ∨ HasTask ts guid) :
    ∃ op, op ∈ residualOperations (assemble s cs gs ts) ∧ Origin cs gs ts guid op := by
  have hmem := (@mem_assemble cs gs ts s guid).mpr (Or.inr hin)
  obtain ⟨op, hop⟩ := Option.isSome_iff_exists.mp (AList.lookup_isSome.mpr hmem)
  have ho := origin_of_lookup hop
  have hres : op.isResidual := by
    cases ho with
    | container hc => exact absurd hc hno
    | joint => rfl
    | instance_ => rfl
    | evacuating => rfl
    | task => rfl
  rw [← ho.key] at hop
  exact ⟨op, mem_residualOperations.mpr ⟨hop, hres⟩, ho⟩

/-- What is due is asked for by some operation of the batch. The three parts are the same
argument for instance records, evacuating records and tasks; which kinds of origin are
impossible differs. -/
theorem due_requested {cellID : String} (hkept : WellKept cellID gs ts) (s : Schedule) {c : Call}
    (hc : c ∈ dueCalls cs gs ts) :
    ∃ op ∈ residualOperations (assemble s cs gs ts), c ∈ op.requests := by
  rcases mem_dueCalls.mp hc with ⟨lrp, hmem, hno, rfl⟩ | ⟨lrp, hmem, hno, rfl⟩ |
    ⟨task, hmem, hno, rfl⟩
  · obtain ⟨op, hop, ho⟩ := exists_residual s hno (Or.inl ⟨lrp, hmem, rfl⟩)
    refine ⟨op, hop, ?_⟩
    cases ho with
    | container hc => exact absurd hc hno
    | joint _ hmem' hguid' _ =>
      rw [List.inj_on_of_nodup_map hkept.instances hmem' hmem hguid']
      exact List.mem_cons_self ..
    | instance_ _ hmem' hguid' _ =>
      rw [List.inj_on_of_nodup_map hkept.instances hmem' hmem hguid']
      exact List.mem_cons_self ..
    | evacuating _ hi _ _ => exact absurd ⟨lrp, hmem, rfl⟩ hi
    | task _ hi _ _ => exact absurd ⟨lrp, hmem, rfl⟩ hi
  · obtain ⟨op, hop, ho⟩ := exists_residual s hno (Or.inr (Or.inl ⟨lrp, hmem, rfl⟩))
    refine ⟨op, hop, ?_⟩
    cases ho with
    | container hc => exact absurd hc hno
    -- this record is the evacuating one of the two, so its keys have to be compared
    | @joint lrp' _ hmem' hguid' _ =>
      rw [← hkept.same_key lrp' hmem' lrp hmem hguid', ← hkept.instanceKey_eq
        (List.mem_append_left _ hmem') (List.mem_append_right _ hmem) hguid']
      exact List.mem_cons_of_mem _ (List.mem_cons_self ..)
    | instance_ _ _ _ he => exact absurd ⟨lrp, hmem, rfl⟩ he
    | evacuating _ _ hmem' hguid' =>
      rw [List.inj_on_of_nodup_map hkept.evacuating hmem' hmem hguid']
      exact List.mem_cons_self ..
    | task _ _ he _ => exact absurd ⟨lrp, hmem, rfl⟩ he
  · obtain ⟨op, hop, ho⟩ := exists_residual s hno (Or.inr (Or.inr ⟨task, hmem, rfl⟩))
    obtain ⟨hni, hne⟩ := hkept.disjoint task hmem
    refine ⟨op, hop, ?_⟩
    cases ho with
    | container hc => exact absurd hc hno
    | joint _ hmem' hguid' _ => exact absurd ⟨_, hmem', hguid'⟩ hni
    | instance_ _ hmem' hguid' _ => exact absurd ⟨_, hmem', hguid'⟩ hni
    | evacuating _ _ hmem' hguid' => exact absurd ⟨_, hmem', hguid'⟩ hne
    | task => exact List.mem_cons_self ..

/-- The guid a request of a residual operation is about, by which the requests of different
operations are told apart. -/
def requestGuid : Call → String
  | .removeActualLRP _ _ instanceKey => instanceKey.instanceGuid
  | .removeEvacuatingActualLRP _ instanceKey => instanceKey.instanceGuid
  | .failTask taskGuid _ => taskGuid
  | _ => ""

/-- A request of an operation is about the guid the operation is queued by. -/
theorem requestGuid_of_mem {op : Operation} {c : Call} (h : c ∈ op.requests) :
    requestGuid c = op.key := by
  cases op with
  | container => exact absurd h List.not_mem_nil
  | residualInstance => obtain rfl := List.mem_singleton.mp h; rfl
  | residualEvacuating => obtain rfl := List.mem_singleton.mp h; rfl
  | residualJoint =>
    rcases List.mem_cons.mp h with rfl | h
    · rfl
    · obtain rfl := List.mem_singleton.mp h
      rfl
  | residualTask => obtain rfl := List.mem_singleton.mp h; rfl

/-- No operation makes a request twice; the two of the joint operation are different calls. -/
theorem nodup_requests (op : Operation) : op.requests.Nodup := by
  cases op <;> simp [Operation.requests]

/-- No request is made twice: operations of one batch have distinct keys. -/
theorem nodup_requests_residualOperations (s : Schedule) :
    ((residualOperations (assemble s cs gs ts)).flatMap Operation.requests).Nodup := by
  rw [List.nodup_flatMap]
  refine ⟨fun op _ => nodup_requests op, ?_⟩
  -- two requests that are equal are about one guid, and so are their operations
  have hkeys : (residualOperations (assemble s cs gs ts)).Pairwise fun op op' =>
      op.key ≠ op'.key := by
    refine List.Pairwise.filter _ (List.pairwise_map.mpr ?_)
    have hpw : (assemble s cs gs ts).entries.Pairwise fun e e' => e.1 ≠ e'.1 :=
      List.nodupKeys_iff_pairwise.mp (assemble s cs gs ts).nodupKeys
    refine hpw.imp_of_mem fun {e e'} he he' hne => ?_
    rwa [(origin_of_lookup (AList.mem_lookup_iff.mpr he)).key,
      (origin_of_lookup (AList.mem_lookup_iff.mpr he')).key]
  refine hkeys.imp fun {op op'} hne => ?_
  apply List.disjoint_left.mpr
  intro c hc hc'
  exact hne ((requestGuid_of_mem hc).symm.trans (requestGuid_of_mem hc'))

/-- Nothing is due twice: within each of the three lists the guids are distinct, and calls of
different lists are different calls. -/
theorem nodup_dueCalls {cellID : String} (hkept : WellKept cellID gs ts) :
    (dueCalls cs gs ts).Nodup := by
  have hinst : (instanceRecords gs).Nodup := List.Nodup.of_map _ hkept.instances
  have hevac : (evacuatingRecords gs).Nodup := List.Nodup.of_map _ hkept.evacuating
  have htask : ts.Nodup := List.Nodup.of_map _ hkept.tasks
  -- each of the three parts on its own, and then that no two of them meet
  refine List.Nodup.append ?_ (List.Nodup.append ?_ ?_ ?_) ?_
  · refine List.Nodup.map_on (fun lrp hl lrp' hl' heq => ?_) (hinst.filter _)
    injection heq with _ _ hik
    exact List.inj_on_of_nodup_map hkept.instances (List.mem_of_mem_filter hl)
      (List.mem_of_mem_filter hl') (congrArg Models.ActualLRPInstanceKey.instanceGuid hik)
  · refine List.Nodup.map_on (fun lrp hl lrp' hl' heq => ?_) (hevac.filter _)
    injection heq with _ hik
    exact List.inj_on_of_nodup_map hkept.evacuating (List.mem_of_mem_filter hl)
      (List.mem_of_mem_filter hl') (congrArg Models.ActualLRPInstanceKey.instanceGuid hik)
  · refine List.Nodup.map_on (fun task hl task' hl' heq => ?_) (htask.filter _)
    injection heq with hguid
    exact List.inj_on_of_nodup_map hkept.tasks (List.mem_of_mem_filter hl)
      (List.mem_of_mem_filter hl') hguid
  · rw [List.disjoint_left]
    intro c hc hc'
    obtain ⟨_, _, rfl⟩ := List.mem_map.mp hc
    obtain ⟨_, _, h⟩ := List.mem_map.mp hc'
    cases h
  · rw [List.disjoint_left]
    intro c hc hc'
    obtain ⟨_, _, rfl⟩ := List.mem_map.mp hc
    rcases List.mem_append.mp hc' with hc' | hc'
    · obtain ⟨_, _, h⟩ := List.mem_map.mp hc'
      cases h
    · obtain ⟨_, _, h⟩ := List.mem_map.mp hc'
      cases h

/-- The requests of a batch's residual operations are what is due, each once. -/
theorem requests_perm_dueCalls {cellID : String} (hkept : WellKept cellID gs ts) (s : Schedule) :
    ((residualOperations (assemble s cs gs ts)).flatMap Operation.requests).Perm
      (dueCalls cs gs ts) := by
  refine (List.perm_ext_iff_of_nodup (nodup_requests_residualOperations s)
    (nodup_dueCalls hkept)).mpr fun c => ⟨fun hc => ?_, fun hc => ?_⟩
  · obtain ⟨op, hop, hc⟩ := List.mem_flatMap.mp hc
    exact (origin_of_lookup (mem_residualOperations.mp hop).1).requests_due hkept c hc
  · obtain ⟨op, hop, hc⟩ := due_requested hkept s hc
    exact List.mem_flatMap.mpr ⟨op, hop, hc⟩

end Exact

/-- **Bulk harmonization is complete and exact.** The three reads are made once each,
in any order. If one of them failed there is no batch. Otherwise the batch knows
exactly the guids of the three answers, each under its own key and with the kind of
operation the priorities give it; and its residual operations, run in any order while
the executor stays as it was, ask the BBS for exactly the removals and failures that
are due, each once, and for nothing else. -/
theorem batchOperations_complete_and_exact (C : Cell) (s : Schedule) (t : List RepEvent)
    (res : Except Err (GoMap String Operation)) (h : (batchOperations C s).Trace t res) :
    ∃ found : Found, t = s.reads.map (readEvent C found) ∧
      ((∃ err, found.containers = .error err ∨ found.groups = .error err ∨
          found.tasks = .error err) → ∃ err, res = .error err) ∧
      ∀ cs gs ts, found = ⟨.ok cs, .ok gs, .ok ts⟩ → ∃ batch, res = .ok batch ∧
        (∀ guid, guid ∈ batch ↔ HasContainer cs guid ∨ HasInstance gs guid ∨
          HasEvacuating gs guid ∨ HasTask ts guid) ∧
        (∀ guid op, batch.lookup guid = some op →
          op.key = guid ∧ kindOf cs gs ts guid = some op.kind) ∧
        ∀ ops t', WellKept C.cellID gs ts → ops.Perm (residualOperations batch) →
          (executeAll C ops).Trace t' () → Unchanged cs t' →
          (otherCalls t').Perm (dueCalls cs gs ts) := by
  obtain ⟨found, ht, rfl⟩ := trace_batchOperations h
  refine ⟨found, ht, ?_, ?_⟩
  · rintro ⟨err, herr | herr | herr⟩
    · exact resolve_error (r := .containers) (by rw [Found.error, herr]; rfl)
    · exact resolve_error (r := .lrps) (by rw [Found.error, herr]; rfl)
    · exact resolve_error (r := .tasks) (by rw [Found.error, herr]; rfl)
  · rintro cs gs ts rfl
    refine ⟨_, resolve_ok C s cs gs ts, mem_assemble s, ?_, ?_⟩
    · intro guid op hop
      exact ⟨(origin_of_lookup hop).key, (origin_of_lookup hop).kind⟩
    · intro ops t' hkept hops ht' hun
      have hres : ∀ op ∈ ops, op.isResidual ∧ ¬ HasContainer cs op.key := by
        intro op hop
        -- by its origin, a residual operation was made for a guid without a container
        obtain ⟨hlookup, hres⟩ := mem_residualOperations.mp (hops.mem_iff.mp hop)
        exact ⟨hres, (origin_of_lookup hlookup).no_container hres⟩
      rw [otherCalls_executeAll hres ht' hun]
      exact (hops.flatMap_right _).trans (requests_perm_dueCalls hkept s)

/-! ### A concrete batch

One container with a record, a guid with both records and no container, an evacuating
record alone, and a task whose container is gone. -/

/-- A record of the sample cell, under the given instance guid. -/
def sampleRecord (instanceGuid : String) : ActualLRP :=
  ⟨⟨"process", 0, "domain"⟩, ⟨instanceGuid, "cell"⟩⟩

/-- A container without tags, so that no processor is responsible for it. -/
def sampleContainer (guid : String) : Container :=
  ⟨guid, ⟨0, 0, 0, ""⟩, none, .running, [], "", "", ⟨false, "", false⟩⟩

/-- What the three reads find: four guids with something, of which only `a` has a container. -/
def sampleFound : Found where
  containers := .ok [sampleContainer "a"]
  groups := .ok [⟨some (sampleRecord "a"), none⟩,
    ⟨some (sampleRecord "b"), some (sampleRecord "b")⟩, ⟨none, some (sampleRecord "c")⟩]
  tasks := .ok [⟨"t", "", [], "", 0, false, "", "", "", [], none, [], [], "", none, none, "", ""⟩]

/-- The three reads are made and answered so. -/
theorem trace_sampleFound : (batchOperations Cell.sample Schedule.inOrder).Trace
    (Read.all.map (readEvent Cell.sample sampleFound))
    (resolve Cell.sample Schedule.inOrder sampleFound) :=
  .call _ (.call _ (.call _ (.ret _)))

/-- The residual operations of the sample batch, last guid first. -/
def sampleOperations : List Operation :=
  [.residualTask "t", .residualEvacuating (sampleRecord "c").key (sampleRecord "c").instanceKey,
    .residualJoint (sampleRecord "b").key (sampleRecord "b").instanceKey]

/-- Running them: no container is found, every request is granted. -/
def sampleExecution : List RepEvent :=
  [⟨.getContainer "t", .error .containerNotFound⟩,
    ⟨.failTask "t" TaskProcessor.reasonMissingContainer, none⟩,
    ⟨.getContainer "c", .error .containerNotFound⟩,
    ⟨.removeEvacuatingActualLRP (sampleRecord "c").key (sampleRecord "c").instanceKey, none⟩,
    ⟨.getContainer "b", .error .containerNotFound⟩,
    ⟨.removeActualLRP "process" 0 (sampleRecord "b").instanceKey, none⟩,
    ⟨.removeEvacuatingActualLRP (sampleRecord "b").key (sampleRecord "b").instanceKey, none⟩]

/-- The sample batch, settled by its residual operations. -/
theorem batchOperations_settles_sampleFound : ∃ cs gs ts,
    sampleFound = ⟨.ok cs, .ok gs, .ok ts⟩ ∧
      (otherCalls sampleExecution).Perm (dueCalls cs gs ts) := by
  obtain ⟨found, hreads, -, hok⟩ := batchOperations_complete_and_exact Cell.sample
    Schedule.inOrder _ _ trace_sampleFound
  have hfound : found = sampleFound := by
    obtain ⟨cs, gs, ts⟩ := found
    injection hreads with h₁ hreads
    injection hreads with h₂ hreads
    injection hreads with h₃
    cases h₁
    cases h₂
    cases h₃
    rfl
  subst hfound
  obtain ⟨batch, hbatch, -, -, hexact⟩ := hok _ _ _ rfl
  cases hbatch
  refine ⟨_, _, _, rfl, hexact sampleOperations sampleExecution ?_ ?_ ?_ ?_⟩
  · exact ⟨by decide, by decide, by decide, by decide, by decide, by decide⟩
  · decide
  · exact .call _ (.call _ (.call _ (.call _ (.call _ (.call _ (.call _ (.ret _)))))))
  · intro guid r hr
    simp only [sampleExecution, List.mem_cons, Sigma.mk.injEq, Call.getContainer.injEq,
      reduceCtorEq, false_and, List.not_mem_nil, or_false, false_or] at hr
    rcases hr with ⟨rfl, hr⟩ | ⟨rfl, hr⟩ | ⟨rfl, hr⟩
    · cases hr
      decide
    · cases hr
      decide
    · cases hr
      decide

end CellRep
